/-!
# Text as bytes

The encoding of characters in one to four bytes. Reading refuses everything that writing does not
produce: stray or missing continuation bytes, longer forms than needed, and numbers that are no
characters.
-/
namespace Hush.Text

/-- A byte that continues a character. -/
def isContinuation (b : UInt8) : Bool := 0x80 ≤ b && b ≤ 0xBF

/-- The six low bits of a continuation byte. -/
def continued (b : UInt8) : Nat := b.toNat % 64

/-- The character with the given number, if the number needs at least `least`. -/
def character? (least n : Nat) : Option Char :=
  if least ≤ n ∧ n.isValidChar then some (Char.ofNat n) else none

/-- What has been read of a character: how many bytes it still lacks, its number so far, and the
least number that one of its length may have. -/
structure Begun where
  missing : Nat
  number : Nat
  least : Nat
  deriving DecidableEq, Repr

namespace Begun

/-- Between two characters. -/
def nothing : Begun := ⟨0, 0, 0⟩

/-- What is begun after one more byte, and the character that the byte completes. -/
def next (s : Begun) (b : UInt8) : Option (Begun × Option Char) :=
  match s.missing with
  | 0 =>
    if b < 0x80 then some (nothing, some (Char.ofNat b.toNat))
    else if b < 0xC0 then none
    else if b < 0xE0 then some (⟨1, b.toNat % 32, 0x80⟩, none)
    else if b < 0xF0 then some (⟨2, b.toNat % 16, 0x800⟩, none)
    else if b < 0xF8 then some (⟨3, b.toNat % 8, 0x10000⟩, none)
    else none
  | missing + 1 =>
    if isContinuation b then
      let number := s.number * 64 + continued b
      if missing = 0 then (character? s.least number).map fun c => (nothing, some c)
      else some (⟨missing, number, s.least⟩, none)
    else none

end Begun

/-- The text that bytes encode, after the characters already read in reverse. -/
def decodeFrom (s : Begun) : List UInt8 → List Char → Option (List Char)
  | [], read => if s.missing = 0 then some read.reverse else none
  | b :: bytes, read =>
    match s.next b with
    | some (s, some c) => decodeFrom s bytes (c :: read)
    | some (s, none) => decodeFrom s bytes read
    | none => none

def decode? (bytes : List UInt8) : Option (List Char) := decodeFrom .nothing bytes []

def isText (bytes : List UInt8) : Bool := (decode? bytes).isSome

def encode (s : String) : List UInt8 := s.toList.flatMap String.utf8EncodeChar

def string? (bytes : List UInt8) : Option String := (decode? bytes).map String.ofList

end Hush.Text
