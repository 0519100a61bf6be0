import Hush.Pcm.Word
import Hush.Proofs.Pcm.Slots

/-!
# Words and the numbers they stand for

A machine stores the low bits of the biased sample, although its sum wraps and two masks cut it; and
it reads the number that those bits stand for, since spreading the sign gives the remainder that is
nearest to zero. So storing and reading in machine words is the arithmetic on whole numbers, for
every sample that a word can hold.
-/
namespace Hush

/-! ### Signed and unsigned readings of a word -/

theorem toNat_toUInt64 (x : Int64) : (x.toUInt64.toNat : Int) = x.toInt % (2 ^ 64 : Nat) := by
  have hlt := x.toUInt64.toNat_lt
  have hsame : x.toUInt64.toNat = x.toBitVec.toNat := rfl
  rw [Int64.toInt, BitVec.toInt_eq_toNat_bmod, Int.bmod_emod, ← hsame]
  omega

theorem toInt_toInt64 (x : UInt64) : x.toInt64.toInt = Int.bmod x.toNat (2 ^ 64) := by
  rw [Int64.toInt, UInt64.toBitVec_toInt64, BitVec.toInt_eq_toNat_bmod]
  rfl

/-- Shifting a signed word down divides it and rounds down. -/
theorem toInt_shiftRight {n : Nat} (hn : n < 64) (x : Int64) :
    (x >>> Int64.ofNat n).toInt = x.toInt / (2 ^ n : Nat) := by
  have hamounts : ∀ m < 64, ((Int64.ofNat m).toBitVec.smod 64).toNat = m := by decide
  rw [Int64.toInt, Int64.toBitVec_shiftRight, BitVec.sshiftRight', hamounts n hn,
    BitVec.toInt_sshiftRight, Int.shiftRight_eq_div_pow, Int64.toInt]

theorem toNat_shiftLeft_of_lt {x : UInt64} {n : Nat} (hn : n < 64) (h : x.toNat * 2 ^ n < 2 ^ 64) :
    (x <<< UInt64.ofNat n).toNat = x.toNat * 2 ^ n := by
  have hamount : (UInt64.ofNat n).toNat % 64 = n := by
    rw [UInt64.toNat_ofNat']
    omega
  rw [UInt64.toNat_shiftLeft, hamount, Nat.shiftLeft_eq, Nat.mod_eq_of_lt h]

/-- The remainder nearest to zero, when number and modulus are scaled alike. -/
theorem bmod_mul_of_lt {n half scale : Nat} (hn : n < 2 * half) (hscale : 0 < scale) :
    Int.bmod (n * scale : Nat) (2 * half * scale) = Int.bmod n (2 * half) * scale := by
  have hscaled : n * scale < 2 * half * scale := Nat.mul_lt_mul_of_pos_right hn hscale
  have hdouble : 2 * half * scale = 2 * (half * scale) := Nat.mul_assoc _ _ _
  rw [Int.bmod_def, Int.bmod_def, ← Int.natCast_mod, ← Int.natCast_mod, Nat.mod_eq_of_lt hscaled,
    Nat.mod_eq_of_lt hn]
  by_cases hlow : n < half
  · have hlow' : n * scale < half * scale := Nat.mul_lt_mul_of_pos_right hlow hscale
    rw [if_pos (by omega), if_pos (by omega), Int.natCast_mul]
  · have hhigh : half * scale ≤ n * scale := Nat.mul_le_mul_right _ (Nat.le_of_not_lt hlow)
    rw [if_neg (by omega), if_neg (by omega), Int.natCast_mul, Int.natCast_mul, Int.sub_mul]

namespace Pcm

open Silence (Stop Work wordBytes)

/-! ### Low bits and signs -/

theorem toNat_lowMask {bits : Nat} (h : bits ≤ 64) : (lowMask bits).toNat = 2 ^ bits - 1 := by
  unfold lowMask
  split
  · obtain rfl : bits = 64 := by omega
    rfl
  · have hpow : 2 ^ bits < 2 ^ 64 := Nat.pow_lt_pow_right (by decide) (by omega)
    have hone : (1 <<< UInt64.ofNat bits : UInt64).toNat = 2 ^ bits := by
      rw [toNat_shiftLeft_of_lt (by omega) (by simpa using hpow)]
      exact Nat.one_mul _
    have hle : (1 : UInt64) ≤ 1 <<< UInt64.ofNat bits := by
      rw [UInt64.le_iff_toNat_le, hone]
      exact Nat.two_pow_pos bits
    rw [UInt64.toNat_sub_of_le _ _ hle, hone]
    rfl

theorem toNat_and_lowMask {bits : Nat} (h : bits ≤ 64) (x : UInt64) :
    (x &&& lowMask bits).toNat = x.toNat % 2 ^ bits := by
  rw [UInt64.toNat_and, toNat_lowMask h, Nat.and_two_pow_sub_one_eq_mod]

/-- Shifting the low bits to the top of a word and down again reads them as a signed number. -/
theorem toInt_spreadSign {raw : UInt64} {bits : Nat} (hpos : 0 < bits) (hbits : bits ≤ 64)
    (hraw : raw.toNat < 2 ^ bits) :
    (spreadSign raw bits).toInt = Int.bmod raw.toNat (2 ^ bits) := by
  obtain ⟨n, rfl⟩ := Nat.exists_eq_add_of_lt hpos
  rw [Nat.zero_add] at hbits hraw ⊢
  have hscale := Nat.two_pow_pos (64 - (n + 1))
  have hdouble : 2 ^ (n + 1) = 2 * 2 ^ n := Nat.pow_succ'
  have hword : 2 * 2 ^ n * 2 ^ (64 - (n + 1)) = 2 ^ 64 := by
    rw [← hdouble, ← Nat.pow_add]
    congr 1
    omega
  have hshifted : (raw <<< UInt64.ofNat (64 - (n + 1))).toNat = raw.toNat * 2 ^ (64 - (n + 1)) := by
    apply toNat_shiftLeft_of_lt (by omega)
    rw [← hword, ← hdouble]
    exact Nat.mul_lt_mul_of_pos_right hraw hscale
  rw [hdouble] at hraw
  rw [spreadSign, toInt_shiftRight (by omega), toInt_toInt64, hshifted, ← hword,
    bmod_mul_of_lt hraw hscale, hdouble]
  exact Int.mul_ediv_cancel _ (by omega)

/-! ### Storing -/

variable {f : Format} {l : Layout}

theorem toInt_biasWord (hl : f.layout? = some l) : (biasWord l).toInt = l.bias := by
  cases f <;> cases hl <;> decide

/-- The sum that wraps has the low bits of the sum that does not. -/
theorem toNat_biased (hl : f.layout? = some l) (v : Int64) :
    ((biasWord l + v).toUInt64.toNat : Int) = (v.toInt + l.bias) % (2 ^ 64 : Nat) := by
  rw [toNat_toUInt64, Int64.toInt_add, Int.bmod_emod, toInt_biasWord hl, Int.add_comm]

/-- After both masks the bits that are to be stored are left. -/
theorem toNat_wordToStore (hl : f.layout? = some l) (v : Int64) :
    (wordToStore l v).toNat = storedWord l v.toInt := by
  have hproper := Format.proper hl
  have hwidth : 8 * l.byteWidth ≤ 64 := by
    have := hproper.width_le
    omega
  have hstored : storedBits l ≤ 64 := hproper.stored_le_width.trans hwidth
  -- The mask of the depth is the narrower one; where the sign is spread there is only the other.
  have hkept : (wordToStore l v).toNat = (biasWord l + v).toUInt64.toNat % 2 ^ storedBits l := by
    have hcut : ∀ n, n % 2 ^ storedBits l % 2 ^ (8 * l.byteWidth) = n % 2 ^ storedBits l := by
      intro n
      apply Nat.mod_eq_of_lt
      calc n % 2 ^ storedBits l < 2 ^ storedBits l := Nat.mod_lt _ (Nat.two_pow_pos _)
        _ ≤ 2 ^ (8 * l.byteWidth) := Nat.pow_le_pow_right (by decide) hproper.stored_le_width
    rw [← hcut, wordToStore, toNat_and_lowMask hwidth]
    cases hpadding : l.padding with
    | signExtend => rw [storedBits, hpadding, Nat.mod_mod]
    | none | zero =>
      have hdepth : storedBits l = l.bitDepth := by rw [storedBits, hpadding]
      rw [hdepth] at hstored ⊢
      rw [toNat_and_lowMask hstored]
  have hpow : (2 ^ storedBits l : Nat) = ((Nat.pow 2 (storedBits l) : Nat) : Int) := rfl
  -- The wrap of the sum is a multiple of what is kept.
  have hdvd : ((2 ^ storedBits l : Nat) : Int) ∣ (2 ^ 64 : Nat) :=
    Int.natCast_dvd_natCast.mpr (Nat.pow_dvd_pow 2 hstored)
  have hcut : ((wordToStore l v).toNat : Int) = (v.toInt + l.bias) % (2 ^ storedBits l : Nat) := by
    rw [hkept, Int.natCast_mod, toNat_biased hl, Int.emod_emod_of_dvd _ hdvd]
  rw [storedWord, ← hpow, ← hcut, Int.toNat_natCast]

/-- Machine words are packed as the numbers they stand for. -/
theorem packWord_eq_pack (hl : f.layout? = some l) (v : Int64) (buffer : List UInt8) :
    packWord l v buffer = Silence.pack l v.toInt buffer := by
  rw [packWord, toNat_wordToStore hl]
  rfl

/-! ### Reading -/

theorem bitDepth_le (hl : f.layout? = some l) : l.bitDepth ≤ 32 := by
  cases f <;> cases hl <;> decide

/-- A word is read as the number that its low bits make up. -/
theorem toInt_sampleOfWord (hl : f.layout? = some l) (stored : UInt64) :
    (sampleOfWord l stored).toInt =
      if l.signed then Int.bmod (stored.toNat % 2 ^ l.bitDepth : Nat) (2 ^ l.bitDepth)
      else (stored.toNat % 2 ^ l.bitDepth : Nat) - l.bias := by
  have hproper := Format.proper hl
  have hdepth := bitDepth_le hl
  have hraw : (stored &&& lowMask l.bitDepth).toNat = stored.toNat % 2 ^ l.bitDepth :=
    toNat_and_lowMask (by omega) stored
  have hlow : stored.toNat % 2 ^ l.bitDepth < 2 ^ l.bitDepth := Nat.mod_lt _ (Nat.two_pow_pos _)
  have hsmall : 2 ^ l.bitDepth ≤ 2 ^ 32 := Nat.pow_le_pow_right (by decide) hdepth
  rw [sampleOfWord, Int64.toInt_sub, toInt_biasWord hl]
  cases hsigned : l.signed with
  | true =>
    have hbias : l.bias = 0 := by simp [Layout.bias, hsigned]
    have hspread := toInt_spreadSign hproper.depth_pos (by omega) (hraw ▸ hlow)
    rw [hbias, Int.natCast_zero, Int.sub_zero, Int64.toInt_bmod, if_pos rfl, if_pos rfl, hspread,
      hraw]
  | false =>
    have hdouble := two_mul_bias hproper hsigned
    have hvalue : (stored &&& lowMask l.bitDepth).toInt64.toInt =
        (stored.toNat % 2 ^ l.bitDepth : Nat) := by
      rw [toInt_toInt64, hraw]
      apply Int.bmod_eq_of_le <;> omega
    rw [if_neg Bool.false_ne_true, if_neg Bool.false_ne_true, hvalue]
    apply Int.bmod_eq_of_le <;> omega

/-- The bytes of a slot are read as the sample that they hold. -/
theorem read_eq_ok (hl : f.layout? = some l) {bytes : List UInt8}
    (hroom : l.byteWidth ≤ bytes.length) :
    ∃ x, read f bytes = .ok x ∧ x.toInt = ofSlot l (bytes.take l.byteWidth) := by
  have hproper := Format.proper hl
  have hlayout : f.layout = .ok l := (Format.layout_eq_ok_iff f l).mpr hl
  have hlength : (bytes.take l.byteWidth).length = l.byteWidth := List.length_take_of_le hroom
  have hstored : wordOfBytes l.byteOrder (bytes.take l.byteWidth) =
      .ok (UInt64.ofNat (ofOrderedBytes l.byteOrder (bytes.take l.byteWidth))) := by
    refine if_pos ?_
    rw [hlength]
    exact ⟨hproper.width_pos, hproper.width_le⟩
  have hword : ofOrderedBytes l.byteOrder (bytes.take l.byteWidth) < 2 ^ 64 := by
    calc ofOrderedBytes l.byteOrder (bytes.take l.byteWidth)
        < 256 ^ (bytes.take l.byteWidth).length := ofOrderedBytes_lt _ _
      _ ≤ 256 ^ 8 := Nat.pow_le_pow_right (by decide) (hlength.trans_le hproper.width_le)
      _ = 2 ^ 64 := by decide
  refine ⟨sampleOfWord l (UInt64.ofNat (ofOrderedBytes l.byteOrder (bytes.take l.byteWidth))),
    ?_, ?_⟩
  · simp only [read, hlayout, Except.mapError, bind, Except.bind, Nat.not_lt.mpr hroom, if_false,
      hstored]
    rfl
  · rw [toInt_sampleOfWord hl, UInt64.toNat_ofNat', Nat.mod_eq_of_lt hword]
    rfl

end Pcm

/-- A buffer with room for a slot takes any sample of a proper layout. -/
theorem Silence.pack_eq_ok {l : Layout} (hl : l.Proper) (v : Int) {buffer : List UInt8}
    (hroom : l.byteWidth ≤ buffer.length) :
    pack l v buffer = .ok (Pcm.slot l v ++ buffer.drop l.byteWidth) := by
  have hword : Pcm.storedWord l v < Nat.pow 256 l.byteWidth ∧ l.byteWidth ≤ 8 :=
    ⟨Pcm.storedWord_lt_width hl v, hl.width_le⟩
  simp only [pack, Nat.not_lt.mpr hroom, if_false, wordBytes, if_pos hword]
  rfl

namespace Pcm

open Silence

/-- Writing in machine words leaves what `encode` gives, and hands out the width of the slot. -/
theorem runOn_write {f : Format} {l : Layout} (hl : f.layout? = some l) (v : Int64)
    {buffer : List UInt8} (hroom : l.byteWidth ≤ buffer.length) :
    (write f v).runOn buffer = (.ok l.byteWidth, slot l v.toInt ++ buffer.drop l.byteWidth) := by
  have hlayout : f.layout = .ok l := (Format.layout_eq_ok_iff f l).mpr hl
  have hpacked := packWord_eq_pack hl v buffer
  rw [pack_eq_ok (Format.proper hl) v.toInt hroom] at hpacked
  rw [write, hlayout, Work.runOn_bind_of_ok (Work.runOn_check_ok l buffer),
    Work.runOn_bind_of_ok (Work.runOn_get buffer), hpacked,
    Work.runOn_bind_of_ok (Work.runOn_lift _ buffer)]
  rfl

end Pcm
end Hush
