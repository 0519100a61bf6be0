import Hush.Text.Blank

/-!
# Sample formats

The encodings an output device may ask for, and how one sample of each lies in the output buffer.
Three names stand for a format that is not settled yet; they have a name and no layout.
-/
namespace Hush

/-- The known formats, in the order of their tags. -/
inductive Format where
  | unknown | s8 | u8 | s16 | s16le | s16be | s24 | s24le | s24be | s24le3 | s24be3
  | s32 | s32le | s32be | auto | invalid
  deriving DecidableEq, Repr

/-- The order of a sample's bytes; `native` is the order of the host, least significant first. -/
inductive ByteOrder where
  | little | big | native
  deriving DecidableEq, Repr

/-- What fills the bits of a slot above the sample's own depth. -/
inductive Padding where
  | none | signExtend | zero
  deriving DecidableEq, Repr

/-- How one sample lies in its slot. -/
structure Layout where
  bitDepth : Nat
  byteWidth : Nat
  byteOrder : ByteOrder
  signed : Bool
  padding : Padding
  deriving DecidableEq, Repr

namespace Layout

/-- Samples are worked out as words of this many bits before they are cut to the depth. -/
def hyperSampleBits : Nat := 64

/-- How far a hyper sample is shifted down to reach the format's range. -/
def ditherShift (l : Layout) : Nat := hyperSampleBits - l.bitDepth

/-- The part of a draw that lies below the format's least significant bit. -/
def ditherMask (l : Layout) : Nat := Nat.pow 2 l.ditherShift - 1

/-- What is added to a sample before it is stored: half the range, for unsigned formats only. -/
def bias (l : Layout) : Nat := if l.signed then 0 else Nat.pow 2 (l.bitDepth - 1)

end Layout

namespace Format

/-- Every stream is interleaved stereo. -/
def outputChannels : Nat := 2

/-- All formats in the order of their tags. -/
def all : List Format :=
  [unknown, s8, u8, s16, s16le, s16be, s24, s24le, s24be, s24le3, s24be3, s32, s32le, s32be,
    auto, invalid]

/-- The tag: the format's place in `all`. -/
def tag (f : Format) : Nat := all.idxOf f

def name : Format → String
  | unknown => "unknown"
  | s8 => "S8"
  | u8 => "U8"
  | s16 => "S16"
  | s16le => "S16_LE"
  | s16be => "S16_BE"
  | s24 => "S24"
  | s24le => "S24_LE"
  | s24be => "S24_BE"
  | s24le3 => "S24_3LE"
  | s24be3 => "S24_3BE"
  | s32 => "S32"
  | s32le => "S32_LE"
  | s32be => "S32_BE"
  | auto => "auto"
  | invalid => "invalid"

/-- The layout of a concrete format; the placeholders have none. -/
def layout? : Format → Option Layout
  | unknown => none
  | s8 => some ⟨8, 1, .native, true, .none⟩
  | u8 => some ⟨8, 1, .native, false, .none⟩
  | s16 => some ⟨16, 2, .native, true, .none⟩
  | s16le => some ⟨16, 2, .little, true, .none⟩
  | s16be => some ⟨16, 2, .big, true, .none⟩
  | s24 => some ⟨24, 4, .native, true, .signExtend⟩
  | s24le => some ⟨24, 4, .little, true, .zero⟩
  | s24be => some ⟨24, 4, .big, true, .zero⟩
  | s24le3 => some ⟨24, 3, .little, true, .none⟩
  | s24be3 => some ⟨24, 3, .big, true, .none⟩
  | s32 => some ⟨32, 4, .native, true, .none⟩
  | s32le => some ⟨32, 4, .little, true, .none⟩
  | s32be => some ⟨32, 4, .big, true, .none⟩
  | auto => none
  | invalid => none

/-- A format that samples can be written in. -/
def isConcrete (f : Format) : Bool := f.layout?.isSome

def concrete : List Format := all.filter isConcrete

instance : Inhabited Format := ⟨unknown⟩

/-- A name that no format has, without the blanks around it. -/
structure Unrecognised where
  name : String
  deriving DecidableEq, Repr

def Unrecognised.message (e : Unrecognised) : String :=
  s!"unknown sample format \"{e.name}\""

/-- The format a name stands for, whatever the case of its letters and the blanks around it. -/
def parse (s : String) : Except Unrecognised Format :=
  let wanted := Text.trimmed s
  match all.find? fun f => Text.equalUpToCase f.name wanted with
  | some f => .ok f
  | none => .error ⟨wanted⟩

theorem mem_all (f : Format) : f ∈ all := by cases f <;> decide

theorem isConcrete_iff (f : Format) : f.isConcrete = true ↔ ∃ l, f.layout? = some l := by
  simp [isConcrete, Option.isSome_iff_exists]

end Format
end Hush
