import Hush.Pcm
import Mathlib.Algebra.Order.Ring.Int
import Mathlib.Tactic.NormNum

/-!
# Slots and their samples

The word of a sample always fits its slot, and a slot gives back the sample it was written for, cut
to the depth of the format. In a run of slots each one is found at its own place.
-/
namespace Hush

/-- What every row of the format table keeps to: a sample has at least one bit, it fits its slot,
and a slot is no longer than a machine word. -/
structure Layout.Proper (l : Layout) : Prop where
  depth_pos : 0 < l.bitDepth
  depth_le_stored : l.bitDepth ≤ Pcm.storedBits l
  stored_le_width : Pcm.storedBits l ≤ 8 * l.byteWidth
  width_pos : 0 < l.byteWidth
  width_le : l.byteWidth ≤ 8

theorem Format.proper {f : Format} {l : Layout} (h : f.layout? = some l) : l.Proper := by
  cases f <;> cases h <;> constructor <;> decide

namespace Pcm

theorem pow_256 (w : Nat) : Nat.pow 256 w = 2 ^ (8 * w) := by
  show (256 : Nat) ^ w = _
  rw [Nat.pow_mul]

theorem ofLittleEndian_lt (bytes : List UInt8) : ofLittleEndian bytes < 256 ^ bytes.length := by
  induction bytes with
  | nil => decide
  | cons b bytes ih =>
    have hbyte := b.toNat_lt
    rw [ofLittleEndian, List.length_cons, Nat.pow_succ]
    omega

theorem ofOrderedBytes_lt (o : ByteOrder) (bytes : List UInt8) :
    ofOrderedBytes o bytes < 256 ^ bytes.length := by
  cases o with
  | big => exact List.length_reverse ▸ ofLittleEndian_lt bytes.reverse
  | little | native => exact ofLittleEndian_lt bytes

theorem littleEndian_ofLittleEndian (bytes : List UInt8) :
    littleEndian bytes.length (ofLittleEndian bytes) = bytes := by
  induction bytes with
  | nil => rfl
  | cons b bytes ih =>
    have hbyte := b.toNat_lt
    have hlow : (b.toNat + 256 * ofLittleEndian bytes) % 256 = b.toNat := by omega
    have hhigh : (b.toNat + 256 * ofLittleEndian bytes) / 256 = ofLittleEndian bytes := by omega
    rw [ofLittleEndian, List.length_cons, littleEndian, hlow, hhigh, ih, UInt8.ofNat_toNat]

theorem orderedBytes_ofOrderedBytes (o : ByteOrder) (bytes : List UInt8) :
    orderedBytes o bytes.length (ofOrderedBytes o bytes) = bytes := by
  cases o with
  | big =>
    rw [orderedBytes, ofOrderedBytes, ← List.length_reverse, littleEndian_ofLittleEndian,
      List.reverse_reverse]
  | little | native => exact littleEndian_ofLittleEndian bytes

/-- The word of a sample has no more bits than are stored. -/
theorem storedWord_lt (l : Layout) (v : Int) : storedWord l v < 2 ^ storedBits l := by
  have hpos : (0 : Int) < Nat.pow 2 (storedBits l) := by
    exact_mod_cast Nat.two_pow_pos _
  have hlt := Int.emod_lt_of_pos (v + l.bias) hpos
  have hnonneg := Int.emod_nonneg (v + l.bias) (Int.ne_of_gt hpos)
  have hpow : ((2 ^ storedBits l : Nat) : Int) = Nat.pow 2 (storedBits l) := rfl
  unfold storedWord
  omega

/-- So its bytes hold all of it. -/
theorem storedWord_lt_width {l : Layout} (hl : l.Proper) (v : Int) :
    storedWord l v < Nat.pow 256 l.byteWidth := by
  have hword := storedWord_lt l v
  have hroom : 2 ^ storedBits l ≤ 2 ^ (8 * l.byteWidth) :=
    Nat.pow_le_pow_right (by decide) hl.stored_le_width
  rw [pow_256]
  omega

/-- The low bits of a stored word are those of the biased sample. -/
theorem storedWord_mod {l : Layout} (hl : l.Proper) (v : Int) :
    ((storedWord l v % Nat.pow 2 l.bitDepth : Nat) : Int) =
      (v + l.bias) % (2 ^ l.bitDepth : Nat) := by
  have hpos : (0 : Int) < Nat.pow 2 (storedBits l) := by
    exact_mod_cast Nat.two_pow_pos _
  have hnonneg := Int.emod_nonneg (v + l.bias) (Int.ne_of_gt hpos)
  have hdvd : ((2 ^ l.bitDepth : Nat) : Int) ∣ (Nat.pow 2 (storedBits l) : Nat) :=
    Int.natCast_dvd_natCast.mpr (Nat.pow_dvd_pow 2 hl.depth_le_stored)
  rw [Int.natCast_mod, storedWord, Int.toNat_of_nonneg hnonneg]
  exact Int.emod_emod_of_dvd _ hdvd

/-- Moving numbers up by half of an even range and back again centres their remainders. -/
theorem emod_sub_half_eq_bmod (v : Int) {half : Nat} (hpos : 0 < half) :
    (v + half) % (2 * half : Nat) - half = Int.bmod v (2 * half) := by
  have hrange : (0 : Int) < (2 * half : Nat) := by omega
  have hnonneg := Int.emod_nonneg v (Int.ne_of_gt hrange)
  have hlt := Int.emod_lt_of_pos v hrange
  rw [Int.bmod_def, ← Int.emod_add_emod]
  by_cases hlow : v % (2 * half : Nat) < half
  · rw [if_pos (by omega), Int.emod_eq_of_lt (by omega) (by omega)]
    omega
  · have hwrap : v % (2 * half : Nat) + half = v % (2 * half : Nat) - half + (2 * half : Nat) := by
      omega
    rw [if_neg (by omega), hwrap, Int.add_emod_right, Int.emod_eq_of_lt (by omega) (by omega)]
    omega

/-- The bias of an unsigned format is half of its range. -/
theorem two_mul_bias {l : Layout} (hl : l.Proper) (hunsigned : l.signed = false) :
    2 * l.bias = 2 ^ l.bitDepth := by
  obtain ⟨k, hk⟩ := Nat.exists_eq_add_of_lt hl.depth_pos
  have hbias : l.bias = 2 ^ k := by
    simp only [Layout.bias, hunsigned, hk, Nat.zero_add, Nat.add_sub_cancel]
    rfl
  rw [hbias, hk, Nat.zero_add, Nat.pow_succ, Nat.mul_comm]

/-- A slot gives back its sample, cut to the depth and read as a signed number. -/
theorem ofSlot_slot {l : Layout} (hl : l.Proper) (v : Int) :
    ofSlot l (slot l v) = Int.bmod v (2 ^ l.bitDepth) := by
  have hraw : ofOrderedBytes l.byteOrder (slot l v) = storedWord l v := by
    rw [slot, ofOrderedBytes_orderedBytes, Nat.mod_eq_of_lt (storedWord_lt_width hl v)]
  have hlow := storedWord_mod hl v
  cases hsigned : l.signed with
  | true =>
    have hbias : l.bias = 0 := by simp [Layout.bias, hsigned]
    rw [hbias, Int.natCast_zero, Int.add_zero] at hlow
    simp only [ofSlot, hraw, hsigned, if_true, hlow]
    exact Int.emod_bmod v _
  | false =>
    have hdouble := two_mul_bias hl hsigned
    have hpos : 0 < l.bias := by
      have := Nat.two_pow_pos l.bitDepth
      omega
    rw [← hdouble] at hlow ⊢
    simp only [ofSlot, hraw, hsigned, hlow]
    exact emod_sub_half_eq_bmod v hpos

/-! ### Storing and reading -/

variable {f : Format} {l : Layout}

/-- A sample goes to the start of any buffer with room for it, over whatever was there. -/
theorem encode_eq_ok (hl : f.layout? = some l) (v : Int) {buffer : List UInt8}
    (hroom : l.byteWidth ≤ buffer.length) :
    encode f buffer v = .ok (slot l v ++ buffer.drop l.byteWidth) := by
  have hlayout : f.layout = .ok l := (Format.layout_eq_ok_iff f l).mpr hl
  simp only [encode, hlayout, bind, Except.bind, if_neg (Nat.not_lt.mpr hroom)]
  rfl

/-- A sample is read from the start of any bytes that hold a whole slot. -/
theorem decode_eq_ok (hl : f.layout? = some l) {bytes : List UInt8}
    (hroom : l.byteWidth ≤ bytes.length) :
    decode f bytes = .ok (ofSlot l (bytes.take l.byteWidth)) := by
  have hlayout : f.layout = .ok l := (Format.layout_eq_ok_iff f l).mpr hl
  simp only [decode, hlayout, bind, Except.bind, if_neg (Nat.not_lt.mpr hroom)]
  rfl

end Pcm
end Hush
