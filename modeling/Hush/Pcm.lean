import Hush.Fault

/-!
# Samples as bytes

One sample is a whole number. Storing it adds the format's bias, keeps the low bits that the slot
has room for and writes them in the format's byte order; reading takes the low bits of the slot
back and undoes sign and bias.
-/
namespace Hush.Pcm

/-- The `width` low bytes of `n`, least significant first. -/
def littleEndian : (width n : Nat) → List UInt8
  | 0, _ => []
  | w + 1, n => UInt8.ofNat (n % 256) :: littleEndian w (n / 256)

/-- The number that bytes stand for, least significant first. -/
def ofLittleEndian : List UInt8 → Nat
  | [] => 0
  | b :: bs => b.toNat + 256 * ofLittleEndian bs

@[simp] theorem length_littleEndian (w n : Nat) : (littleEndian w n).length = w := by
  induction w generalizing n with
  | zero => rfl
  | succ w ih => simp [littleEndian, ih]

theorem ofLittleEndian_littleEndian (w n : Nat) :
    ofLittleEndian (littleEndian w n) = n % Nat.pow 256 w := by
  induction w generalizing n with
  | zero => simp [littleEndian, ofLittleEndian, Nat.mod_one]
  | succ w ih =>
    have low : (UInt8.ofNat (n % 256)).toNat = n % 256 := by
      rw [UInt8.toNat_ofNat']
      omega
    have wider : Nat.pow 256 (w + 1) = 256 * Nat.pow 256 w := Nat.mul_comm _ _
    rw [littleEndian, ofLittleEndian, ih, low, wider, Nat.mod_mul]

/-- The `width` low bytes of `n` in the given order. -/
def orderedBytes (order : ByteOrder) (width n : Nat) : List UInt8 :=
  match order with
  | .big => (littleEndian width n).reverse
  | .little | .native => littleEndian width n

/-- The number that bytes in the given order stand for. -/
def ofOrderedBytes (order : ByteOrder) (bytes : List UInt8) : Nat :=
  match order with
  | .big => ofLittleEndian bytes.reverse
  | .little | .native => ofLittleEndian bytes

@[simp] theorem length_orderedBytes (o : ByteOrder) (w n : Nat) :
    (orderedBytes o w n).length = w := by
  cases o <;> simp [orderedBytes]

theorem ofOrderedBytes_orderedBytes (o : ByteOrder) (w n : Nat) :
    ofOrderedBytes o (orderedBytes o w n) = n % Nat.pow 256 w := by
  cases o <;> simp [orderedBytes, ofOrderedBytes, ofLittleEndian_littleEndian]

/-- How many bits of the biased sample are stored. A sign extended sample fills its slot. -/
def storedBits (l : Layout) : Nat :=
  match l.padding with
  | .signExtend => 8 * l.byteWidth
  | .none | .zero => l.bitDepth

/-- The word a sample is stored as. -/
def storedWord (l : Layout) (value : Int) : Nat :=
  ((value + l.bias) % Nat.pow 2 (storedBits l)).toNat

def slot (l : Layout) (value : Int) : List UInt8 :=
  orderedBytes l.byteOrder l.byteWidth (storedWord l value)

@[simp] theorem length_slot (l : Layout) (v : Int) : (slot l v).length = l.byteWidth := by
  simp [slot]

def ofSlot (l : Layout) (bytes : List UInt8) : Int :=
  let raw : Nat := ofOrderedBytes l.byteOrder bytes % Nat.pow 2 l.bitDepth
  if l.signed then Int.bmod raw (Nat.pow 2 l.bitDepth) else raw - l.bias

/-- The buffer with the sample written at its start; the bytes after it are kept. -/
def encode (f : Format) (buffer : List UInt8) (value : Int) : Except Fault (List UInt8) := do
  let l ← f.layout
  if buffer.length < l.byteWidth then
    throw .sampleOutOfBounds
  pure (slot l value ++ buffer.drop l.byteWidth)

/-- The sample at the start of the bytes. -/
def decode (f : Format) (bytes : List UInt8) : Except Fault Int := do
  let l ← f.layout
  if bytes.length < l.byteWidth then
    throw .sampleOutOfBounds
  pure (ofSlot l (bytes.take l.byteWidth))

end Hush.Pcm
