import Hush.Config.Load
import Hush.Log.Session
import Hush.Silence
import Hush.Version

/-!
# The report

What the program does when it is run: it reads the settings or takes the defaults, reports what the
volume curve gives at each whole step of the volume, and writes one buffer of silence.
-/
namespace Hush.Report
open Log

/-- Where the program's own events come from. -/
def target : String := "rustair"

/-- How a run ended, and what it left behind. -/
structure Outcome where
  ok : Bool
  session : Session

def tell (level : Level) (s : Session) (message : String) : Session :=
  s.event (.plain level target message)

def volumeColumn (v : Binary64) : String := Decimal.rightAligned 6 (Decimal.fixed 1 v)

def attenuationColumn (a : Binary64) : String := Decimal.rightAligned 9 (Decimal.fixed 2 a)

/-- Reports the attenuation at one volume under a label. It is only worked out if the report is
logged. -/
def row (profile : Volume.Profile) (range : Volume.Range) (s : Session)
    (entry : String × Binary64) : Session :=
  if s.logs (.plain .info target "") then
    let reading := profile.attenuate entry.2 range
    tell .info (s.events reading.events)
      ("  " ++ entry.1 ++ " -> " ++ attenuationColumn reading.attenuation)
  else s

/-- The volumes reported: every whole step from the highest to the lowest, and silence. -/
def rows : List (String × Binary64) :=
  (List.range 31).map (fun step : Nat =>
    let v := -Binary64.ofInt step
    ("volume " ++ volumeColumn v, v)) ++ [("muted       ", Volume.mutedWire)]

/-- A draw as sixteen digits to base sixteen. -/
def hexWord (n : Int) : String :=
  let digits := Nat.toDigits 16 n.toNat
  "0x" ++ String.ofList (List.replicate (16 - digits.length) '0' ++ digits)

/-- What a run takes from the machine: a seed that cannot be foreseen, and how many bytes it can
have for a buffer. -/
structure Machine where
  entropy : UInt64
  memory : Nat

/-- Writes one buffer of silence and reports it. -/
def silence (c : Config) (machine : Machine) (format : Format) (s : Session) : Option Session := do
  let frames := c.output.framesPerBuffer.toNat
  let stream ← (Silence.Stream.create format c.output.dither).toOption
  let length ← (stream.bufferLength frames).toOption
  if machine.memory < length then none
  let buffer := List.replicate length 0
  let out ← (stream.fill (c.dither.generator machine.entropy) buffer frames).toOption
  let dither := if c.output.dither then "on" else "off"
  return tell .info (s.events out.events)
    (s!"Generated {frames} frames of {format.name} silence ({out.written} bytes, " ++
      s!"dither {dither}), continuation {hexWord out.stream.continuation}")

/-- The report under settings. A run whose settings cannot be used ends with what it has reported so
far. -/
def underSettings (c : Config) (machine : Machine) (s : Session) : Outcome :=
  match c.volume.range with
  | .error _ => ⟨false, s⟩
  | .ok range =>
    let profile := c.volume.profile
    let s := tell .info s
      (s!"Volume profile {profile.title}, device range {range.maxDb} to {range.minDb} " ++
        "(0.01 dB)")
    let s := rows.foldl (row profile range) s
    match c.output.concreteFormat with
    | .error _ => ⟨false, s⟩
    | .ok format =>
      match silence c machine format s with
      | some s => ⟨true, s⟩
      | none => ⟨false, s⟩

/-- The settings that a run uses, and what was wrong with those that were looked for. -/
def settings (files : Files) : Config × Option Config.Error :=
  match Config.load files with
  | .ok c => (c, none)
  | .error e => ({}, some e)

/-- One run in a directory. `given` is the filter that the surroundings ask for. -/
def run (stamp : Stamp) (files : Files) (given : Option String) (machine : Machine) : Outcome :=
  let s := Session.start stamp files
  let s := match Config.path? files with
    | some path => s.printLine (Config.loading path)
    | none => s
  let (c, trouble) := settings files
  match s.begin given c with
  | none => ⟨false, s⟩
  | some s =>
    let version : Version := {}
    let s := tell .info s s!"rustair {version.text}"
    let s := match trouble with
      | some e => tell .warn s s!"Falling back to default configuration: {e.message}"
      | none => s
    underSettings c machine s

end Hush.Report
