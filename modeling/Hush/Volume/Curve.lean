import Hush.Binary64.Log2
import Hush.Log.Event
import Hush.Volume

/-!
# Volume curves

Three ways to turn a volume into the attenuation of a device. A muted volume gives the lower bound
in silence; a refused one gives it too and reports why. The bounds are taken as they are, so a
curve has a value even when they are in the wrong order.
-/
namespace Hush.Volume

/-- An attenuation and what was reported on the way. -/
structure Reading where
  attenuation : Binary64
  events : List Log.Event
  deriving DecidableEq

/-- A bound as a binary64 number. -/
def decibels (bound : Int64) : Binary64 := Binary64.ofInt bound.toInt

/-- A curve: its name in reports, where they come from, and its value at an audible volume. -/
structure Curve where
  title : String
  target : String
  audible : (volume : Binary64) → (maxDb minDb : Int64) → Reading

/-- The value of a curve at any volume on the wire. -/
def Curve.attenuate (c : Curve) (raw : Binary64) (maxDb minDb : Int64) : Reading :=
  match Request.ofWire raw with
  | .ok (.audible v) => c.audible v maxDb minDb
  | .ok .muted => ⟨decibels minDb, []⟩
  | .error e =>
    ⟨decibels minDb, [.plain .debug c.target s!"{c.title} volume curve: {e.message}"]⟩

/-- Equal steps of volume are equal steps of attenuation. -/
def flatValue (v : Binary64) (maxDb minDb : Int64) : Binary64 :=
  decibels (maxDb - minDb) * (v - lowest) / (highest - lowest) + decibels minDb

/-- The straight line between the bounds. -/
def flat : Curve where
  title := "Flat"
  target := "rustair::audio::volume::flat"
  audible v maxDb minDb := ⟨flatValue v maxDb minDb, []⟩

/-- A line that leaves zero at its knee and reaches its floor at the lowest volume. -/
structure Segment where
  knee : Binary64
  floor : Binary64

def Segment.value (s : Segment) (v : Binary64) : Binary64 :=
  s.floor * (v - s.knee) / (lowest - s.knee)

/-- The three lines for a span: a gentle one, one from -5 and a steep one from -17 to the floor. -/
def segments (span : Int64) : List Segment :=
  let range := decibels span
  let halved := decibels (-span / 2)
  let gentle := if halved < -range then range else halved
  [⟨0, gentle⟩, ⟨-5, gentle - (range + gentle) / 2⟩, ⟨-17, -range⟩]

/-- The lowest of the lines that apply at a volume, and never above zero. -/
def lowestLine (v : Binary64) (lines : List Segment) : Binary64 :=
  lines.foldl (fun setting line =>
    let value := line.value v
    if v ≤ line.knee ∧ value < setting then value else setting) 0

/-- The curve of the three lines, below the upper bound. -/
def segmentedValue (v : Binary64) (maxDb minDb : Int64) : Binary64 :=
  lowestLine v (segments (maxDb - minDb)) + decibels maxDb

/-- The curve of three lines, shaped like a potentiometer's. -/
def segmented : Curve where
  title := "Standard"
  target := "rustair::audio::volume::segmented"
  audible v maxDb minDb := ⟨segmentedValue v maxDb minDb, []⟩

/-- What each halving of the volume takes away: ten decibels. -/
def dbPerHalving : Binary64 := 1000

/-- Where reports of the tapered curve come from. -/
def taperedTarget : String := "rustair::audio::volume::tapered"

/-- The report that the straight line was louder than the taper. -/
def flatInstead (flat v taper max min : Binary64) : Log.Event :=
  .plain .trace taperedTarget <|
    s!"Tapered volume curve using flat setting {Decimal.shortest flat} for volume " ++
    s!"{Decimal.shortest v} instead of {Decimal.shortest taper} " ++
    s!"(range {Decimal.shortest min} to {Decimal.shortest max})"

/-- Each halving of the volume takes ten decibels, but never below the straight line between the
bounds. The logarithm is a parameter. -/
def taperedReading (log2 : Binary64 → Binary64) (v : Binary64) (maxDb minDb : Int64) : Reading :=
  let max := decibels maxDb
  let min := decibels minDb
  let fraction := 1 - v / lowest
  if fraction ≤ 0 then ⟨min, []⟩
  else
    let flat := min + (max - min) * fraction
    let taper := max + dbPerHalving * log2 fraction
    if taper < flat then ⟨flat, [flatInstead flat v taper max min]⟩
    else ⟨taper.smaller max, []⟩

/-- The taper with the given logarithm. -/
def taperedWith (log2 : Binary64 → Binary64) : Curve where
  title := "Tapered"
  target := taperedTarget
  audible := taperedReading log2

def tapered : Curve := taperedWith Binary64.log2

/-- The curve a device uses. -/
inductive Profile where
  | standard | flat | daslTapered
  deriving DecidableEq, Repr

namespace Profile

def all : List Profile := [standard, flat, daslTapered]

def name : Profile → String
  | standard => "standard"
  | flat => "flat"
  | daslTapered => "dasl_tapered"

def title : Profile → String
  | standard => "Standard"
  | flat => "Flat"
  | daslTapered => "DaslTapered"

/-- The profile of a device that names none. -/
instance : Inhabited Profile := ⟨standard⟩

def ofName? (s : String) : Option Profile := all.find? fun p => p.name == s

def curve : Profile → Curve
  | standard => segmented
  | flat => Volume.flat
  | daslTapered => tapered

/-- The attenuation of a device. -/
def attenuate (p : Profile) (raw : Binary64) (r : Range) : Reading :=
  p.curve.attenuate raw r.maxDb r.minDb

end Profile
end Hush.Volume
