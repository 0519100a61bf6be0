import Hush.Fault
import Hush.Generator
import Hush.Volume.Curve

/-!
# Settings

What a user can set: the format of the output, the device's volume range and curve, the seed of the
dither, and where and how much is logged. Everything has a default. Settings can be used when their
format has a layout and their range is not upside down.
-/
namespace Hush

namespace Config

/-- How many frames a buffer holds when nothing is said about it. -/
def defaultFramesPerBuffer : UInt64 := 352

/-- How many lines a log file may have when nothing is said about it. -/
def defaultMaxLines : UInt32 := 10000

structure OutputSettings where
  format : Format := .s16
  dither : Bool := true
  framesPerBuffer : UInt64 := defaultFramesPerBuffer
  deriving DecidableEq, Repr

structure VolumeSettings where
  profile : Volume.Profile := .standard
  maxDb : Int64 := Volume.defaultMaxDb
  minDb : Int64 := Volume.defaultMinDb
  deriving DecidableEq, Repr

/-- Where the dither starts; from an unpredictable place when no seed is given. -/
structure DitherSettings where
  seed : Option UInt64 := none
  deriving DecidableEq, Repr

structure LogFileSettings where
  path : String
  maxLines : UInt32 := defaultMaxLines
  deriving DecidableEq, Repr

structure LogSettings where
  level : Option String := none
  filters : Option String := none
  file : Option LogFileSettings := none
  deriving DecidableEq, Repr

end Config

structure Config where
  output : Config.OutputSettings := {}
  volume : Config.VolumeSettings := {}
  dither : Config.DitherSettings := {}
  logging : Option Config.LogSettings := none
  deriving DecidableEq, Repr

namespace Config

/-- Why settings cannot be used. -/
inductive Unusable where
  | format (f : Format)
  | range (e : Volume.Inverted)
  deriving DecidableEq, Repr

def Unusable.message : Unusable → String
  | format f => s!"sample format \"{f.name}\" cannot be used for output"
  | range e => e.message

def OutputSettings.concreteFormat (s : OutputSettings) : Except Unusable Format :=
  if s.format.isConcrete then .ok s.format else .error (.format s.format)

def VolumeSettings.range (s : VolumeSettings) : Except Unusable Volume.Range :=
  (Volume.Range.ofBounds s.maxDb s.minDb).mapError .range

/-- Looks for what makes settings unusable, the format first. -/
def validate (c : Config) : Except Unusable Unit := do
  let _ ← c.output.concreteFormat
  let _ ← c.volume.range
  pure ()

/-- The generator that the dither starts from. -/
def DitherSettings.generator (s : DitherSettings) (entropy : UInt64) : Generator :=
  .seeded (s.seed.getD entropy)

/-- The filter that the settings ask for: a level, and further directives after a comma. -/
def filterDirectives (logging : Option LogSettings) : String :=
  let level := (logging.bind (·.level)).getD "info"
  match logging.bind (·.filters) with
  | some filters => if filters.isEmpty then level else level ++ "," ++ filters
  | none => level

end Config
end Hush
