import Hush.Format

/-!
# Faults

Mistakes of the caller that end a call: a format without a layout, a buffer that is too small.
They are kept apart from the errors that a user's text can cause.
-/
namespace Hush

/-- Sizes and counts are held in machine words of this many values. -/
def sizeLimit : Nat := Nat.pow 2 64

/-- Why a call on samples or buffers could not be carried out. -/
inductive Fault where
  | noLayout (format : Format)
  | sampleOutOfBounds
  | shortBuffer (length frames : Nat) (format : Format) (needed : Nat)
  | sizeOverflow (frames : Nat) (format : Format)
  deriving DecidableEq, Repr

def Fault.message : Fault → String
  | .noLayout f =>
    s!"sample format \"{f.name}\" reached the PCM encoder; it has no byte layout"
  | .sampleOutOfBounds => "the buffer is shorter than one sample"
  | .shortBuffer length frames f needed =>
    s!"silence buffer of {length} bytes cannot hold {frames} {f.name} frames ({needed} bytes)"
  | .sizeOverflow frames f =>
    s!"silence buffer cannot hold {frames} {f.name} frames (size overflows usize)"

namespace Format

/-- The layout of a format, or the fault of using one that has none. -/
def layout (f : Format) : Except Fault Layout :=
  match f.layout? with
  | some l => .ok l
  | none => .error (.noLayout f)

@[simp] theorem layout_eq_ok_iff (f : Format) (l : Layout) :
    f.layout = .ok l ↔ f.layout? = some l := by
  unfold layout; split <;> simp_all

/-- Bytes that one stereo frame takes. -/
def frameBytes (f : Format) : Except Fault Nat := do
  let l ← f.layout
  pure (l.byteWidth * outputChannels)

/-- A number that a machine word holds. -/
def sized (n : Nat) : Option Nat := if n < sizeLimit then some n else none

/-- Bytes that `frames` stereo frames take; none when the number does not fit a machine word. Too
many samples fit in no format, so for them the format does not matter. -/
def bytesForFrames (f : Format) (frames : Nat) : Except Fault (Option Nat) :=
  match sized (frames * outputChannels) with
  | none => .ok none
  | some samples => f.layout.map fun l => sized (samples * l.byteWidth)

end Format
end Hush
