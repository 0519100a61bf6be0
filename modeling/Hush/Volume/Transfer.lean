import Hush.Volume.Curve

/-!
# Lines one after another

The standard curve told as it is worked out: the lines are looked at in turn, and a line that
applies at the volume, but whose knee is the lowest volume, has no slope and ends the call. Nothing
here says that the lines of a device have slopes.
-/
namespace Hush.Volume

/-- A line, by its place, whose knee is the lowest volume. -/
structure NoSlope where
  index : Nat
  knee : Binary64
  deriving DecidableEq, Repr

def NoSlope.message (e : NoSlope) : String :=
  s!"volume curve segment {e.index} has its knee at the bottom of travel " ++
    s!"({Decimal.shortest e.knee}); slope undefined"

example : NoSlope.message ⟨0, lowest⟩ =
    "volume curve segment 0 has its knee at the bottom of travel (-30); slope undefined" := by
  decide +kernel

/-- The lowest value of the lines from place `index` on and of what is set so far. -/
def transferFrom (v : Binary64) : (index : Nat) → (setting : Binary64) → List Segment →
    Except NoSlope Binary64
  | _, setting, [] => .ok setting
  | index, setting, line :: lines =>
    if line.knee < v then transferFrom v (index + 1) setting lines
    else if Binary64.Same (lowest - line.knee) 0 then .error ⟨index, line.knee⟩
    else
      let value := line.value v
      transferFrom v (index + 1) (if value < setting then value else setting) lines

/-- The lowest value of the lines that apply at a volume, and never above zero. -/
def transfer (v : Binary64) (lines : List Segment) : Except NoSlope Binary64 :=
  transferFrom v 0 0 lines

/-- The standard curve at any volume on the wire, unless a line has no slope. -/
def standardReading (raw : Binary64) (maxDb minDb : Int64) : Except NoSlope Reading :=
  match Request.ofWire raw with
  | .ok (.audible v) => do
    let setting ← transfer v (segments (maxDb - minDb))
    return ⟨setting + decibels maxDb, []⟩
  | .ok .muted | .error _ => .ok (segmented.attenuate raw maxDb minDb)

end Hush.Volume
