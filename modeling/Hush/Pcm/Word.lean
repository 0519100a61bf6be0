import Hush.Silence.InPlace

/-!
# Samples in machine words

A sample is stored and read here as a machine does it. The bias is added to a signed word, where it
may wrap; low bits are taken with masks, once for the depth of the format and once for its slot; the
sign is spread over a word by shifting up and down again. Bytes are written over those that are
there, and a stop leaves behind what had been written by then.
-/
namespace Hush.Pcm

open Silence (Stop Work wordBytes)

/-- The word of which just the `bits` low bits are set. -/
def lowMask (bits : Nat) : UInt64 := if 64 ≤ bits then -1 else (1 <<< UInt64.ofNat bits) - 1

/-- The `bits` low bits of a word as a signed word, the topmost of them being its sign. -/
def spreadSign (raw : UInt64) (bits : Nat) : Int64 :=
  (raw <<< UInt64.ofNat (64 - bits)).toInt64 >>> Int64.ofNat (64 - bits)

/-- The bias of a format as a signed word. -/
def biasWord (l : Layout) : Int64 := if l.signed then 0 else 1 <<< Int64.ofNat (l.bitDepth - 1)

def wordToStore (l : Layout) (value : Int64) : UInt64 :=
  let biased := (biasWord l + value).toUInt64
  let kept := match l.padding with
    | .signExtend => biased
    | .none | .zero => biased &&& lowMask l.bitDepth
  kept &&& lowMask (8 * l.byteWidth)

def packWord (l : Layout) (value : Int64) (buffer : List UInt8) : Except Stop (List UInt8) := do
  if buffer.length < l.byteWidth then
    throw .slotTooShort
  let written ← wordBytes l.byteOrder l.byteWidth (wordToStore l value).toNat
  return written ++ buffer.drop l.byteWidth

/-- Writes a sample at the start of the buffer and hands out how many bytes it takes. -/
def write (f : Format) (value : Int64) : Work (List UInt8) Nat := do
  let l ← Work.check f.layout
  let packed ← packWord l value (← get)
  modify fun _ => packed
  return l.byteWidth

/-- The word that bytes stand for, if there are any and no more than a machine word's. -/
def wordOfBytes (order : ByteOrder) (bytes : List UInt8) : Except Stop UInt64 :=
  if 0 < bytes.length ∧ bytes.length ≤ 8 then .ok (UInt64.ofNat (ofOrderedBytes order bytes))
  else .error .wordTooLong

/-- The sample that a stored word holds. -/
def sampleOfWord (l : Layout) (stored : UInt64) : Int64 :=
  let raw := stored &&& lowMask l.bitDepth
  let value := if l.signed then spreadSign raw l.bitDepth else raw.toInt64
  value - biasWord l

/-- The sample at the start of the bytes. -/
def read (f : Format) (bytes : List UInt8) : Except Stop Int64 := do
  let l ← f.layout.mapError .fault
  if bytes.length < l.byteWidth then
    throw .slotTooShort
  let stored ← wordOfBytes l.byteOrder (bytes.take l.byteWidth)
  return sampleOfWord l stored

end Hush.Pcm
