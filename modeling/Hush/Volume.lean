import Hush.Decimal

/-!
# Volume requests and ranges

A remote control sends a volume from -30 to 0, or -144 for silence; anything else is refused. A
device's range of attenuation is given in hundredths of a decibel as 64-bit words, whose
differences wrap.
-/
namespace Hush.Volume

def lowest : Binary64 := -30

def highest : Binary64 := 0

/-- What is sent for silence. -/
def mutedWire : Binary64 := -144

inductive Request where
  | audible (volume : Binary64)
  | muted
  deriving DecidableEq, Repr

/-- A volume that is no request. -/
structure OutOfRange where
  volume : Binary64
  deriving DecidableEq, Repr

def OutOfRange.message (e : OutOfRange) : String :=
  s!"volume request value {Decimal.shortest e.volume} is out of range: should be from 0.0 to " ++
    "-30.0 or -144.0"

namespace Request

/-- What a volume on the wire asks for. -/
def ofWire (raw : Binary64) : Except OutOfRange Request :=
  if lowest ≤ raw ∧ raw ≤ highest then .ok (.audible raw)
  else if Binary64.Same raw mutedWire then .ok .muted
  else .error ⟨raw⟩

def toWire : Request → Binary64
  | audible v => v
  | muted => mutedWire

end Request

/-- Bounds in the wrong order. -/
structure Inverted where
  maxDb : Int64
  minDb : Int64
  deriving DecidableEq, Repr

def Inverted.message (e : Inverted) : String :=
  s!"invalid volume range: min_db {e.minDb} is above max_db {e.maxDb}"

/-- The attenuation range of a device, in hundredths of a decibel. -/
structure Range where
  maxDb : Int64
  minDb : Int64
  minDb_le_maxDb : minDb ≤ maxDb
  deriving DecidableEq

namespace Range

def ofBounds (maxDb minDb : Int64) : Except Inverted Range :=
  if h : minDb ≤ maxDb then .ok ⟨maxDb, minDb, h⟩ else .error ⟨maxDb, minDb⟩

/-- The distance of the bounds as a word, which wraps. -/
def span (r : Range) : Int64 := r.maxDb - r.minDb

end Range

/-- The upper bound of a device that says nothing about its range. -/
def defaultMaxDb : Int64 := 0

/-- The lower bound of a device that says nothing about its range. -/
def defaultMinDb : Int64 := -6000

end Hush.Volume
