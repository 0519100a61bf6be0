import Hush.Proofs.Pcm.Words
import Mathlib.Data.Int.ModEq
import Mathlib.Data.Set.Function

/-!
# Storing and reading undo each other

A sample that is stored and read again comes back cut to the depth of its format: as the number in
the format's range that has the same low bits. The other way round a slot comes back as it was
exactly when the bytes that its sample leaves free hold what storing puts there. Between such slots
and the samples of the format's range, storing and reading are inverse to each other.
-/
namespace Hush

/-- The numbers that a sample of the format's depth can be. -/
def Layout.InRange (l : Layout) (x : Int) : Prop :=
  -2 ^ (l.bitDepth - 1) ≤ x ∧ x < 2 ^ (l.bitDepth - 1)

instance (l : Layout) (x : Int) : Decidable (l.InRange x) := inferInstanceAs (Decidable (_ ∧ _))

namespace Pcm

open Silence (Work)

variable {f : Format} {l : Layout}

/-! ### From samples to slots and back -/

/-- The remainder nearest to zero is the only number in range with the same low bits. -/
theorem inRange_and_modEq_iff (hl : l.Proper) (x v : Int) :
    l.InRange x ∧ x ≡ v [ZMOD 2 ^ l.bitDepth] ↔ x = Int.bmod v (2 ^ l.bitDepth) := by
  obtain ⟨n, hn⟩ := Nat.exists_eq_add_of_lt hl.depth_pos
  have hdepth : l.bitDepth = n + 1 := by omega
  have hdouble : 2 ^ (n + 1) = 2 * 2 ^ n := Nat.pow_succ'
  have hmodulus : ((2 : Int) ^ (n + 1)) = (2 ^ (n + 1) : Nat) := by push_cast; rfl
  have hhalf : ((2 : Int) ^ n) = (2 ^ n : Nat) := by push_cast; rfl
  have hpos := Nat.two_pow_pos n
  rw [Layout.InRange, Int.ModEq, hdepth, Nat.add_sub_cancel, hmodulus, hhalf, hdouble]
  constructor
  · rintro ⟨⟨hlow, hhigh⟩, hsame⟩
    rw [← Int.emod_bmod, ← hsame, Int.emod_bmod]
    exact (Int.bmod_eq_of_le (by omega) (by omega)).symm
  · rintro rfl
    have hlow := Int.le_bmod (x := v) (m := 2 * 2 ^ n) (by omega)
    have hhigh := Int.bmod_lt (x := v) (m := 2 * 2 ^ n) (by omega)
    exact ⟨⟨by omega, by omega⟩, Int.bmod_emod⟩

theorem inRange_bmod (hl : l.Proper) (v : Int) : l.InRange (Int.bmod v (2 ^ l.bitDepth)) :=
  ((inRange_and_modEq_iff hl _ v).mpr rfl).1

theorem bmod_of_inRange (hl : l.Proper) {x : Int} (hx : l.InRange x) :
    Int.bmod x (2 ^ l.bitDepth) = x :=
  ((inRange_and_modEq_iff hl x x).mp ⟨hx, rfl⟩).symm

/-- What is read behind the writing of a sample, whatever follows it. -/
theorem read_slot (hl : f.layout? = some l) (v : Int64) (behind : List UInt8) :
    ∃ x, read f (slot l v.toInt ++ behind) = .ok x ∧
      decode f (slot l v.toInt ++ behind) = .ok x.toInt ∧
      x.toInt = Int.bmod v.toInt (2 ^ l.bitDepth) := by
  have hroom : l.byteWidth ≤ (slot l v.toInt ++ behind).length := by
    rw [List.length_append, length_slot]
    omega
  have hfront : (slot l v.toInt ++ behind).take l.byteWidth = slot l v.toInt := by
    rw [← length_slot l v.toInt, List.take_left]
  obtain ⟨x, hread, hx⟩ := read_eq_ok hl hroom
  have hdecode := decode_eq_ok hl hroom
  rw [← hx] at hdecode
  rw [hfront, ofSlot_slot (Format.proper hl)] at hx
  exact ⟨x, hread, hdecode, hx⟩

/-- Any sample is stored in any buffer with room for a slot: it overwrites just the slot, with bytes
that do not depend on what was there. Reading gives the one number in the format's range that agrees
with the sample in its low bits; so a sample in range comes back as it was. -/
theorem stored_samples_read_back {f : Format} {l : Layout} (hl : f.layout? = some l) (v : Int64) :
    (wordToStore l v).toNat < 256 ^ l.byteWidth ∧
    ∃ (stored : List UInt8) (x : Int64), stored.length = l.byteWidth ∧
      (∀ buffer : List UInt8, l.byteWidth ≤ buffer.length →
        let after := stored ++ buffer.drop l.byteWidth
        (write f v).runOn buffer = (.ok l.byteWidth, after) ∧
        encode f buffer v.toInt = .ok after ∧
        read f after = .ok x ∧ decode f after = .ok x.toInt) ∧
      (∀ y : Int, l.InRange y ∧ y ≡ v.toInt [ZMOD 2 ^ l.bitDepth] ↔ y = x.toInt) ∧
      (l.InRange v.toInt → x = v) := by
  have hproper := Format.proper hl
  have hword : (wordToStore l v).toNat < 256 ^ l.byteWidth := by
    rw [toNat_wordToStore hl]
    exact storedWord_lt_width hproper v.toInt
  obtain ⟨x, -, -, hx⟩ := read_slot hl v []
  refine ⟨hword, slot l v.toInt, x, length_slot l v.toInt, ?_, ?_, ?_⟩
  · intro buffer hroom after
    obtain ⟨y, hread, hdecode, hy⟩ := read_slot hl v (buffer.drop l.byteWidth)
    obtain rfl : y = x := Int64.toInt_inj.mp (hy.trans hx.symm)
    exact ⟨runOn_write hl v hroom, encode_eq_ok hl v.toInt hroom, hread, hdecode⟩
  · intro y
    rw [hx]
    exact inRange_and_modEq_iff hproper y v.toInt
  · intro hrange
    exact Int64.toInt_inj.mp (hx.trans (bmod_of_inRange hproper hrange))

/-- Of an unsigned byte only the distance from the middle is kept, and that modulo 256. -/
theorem stored_samples_read_back_wrapped :
    (write .u8 300).runOn [9, 9] = (.ok 1, [172, 9]) ∧ encode .u8 [9, 9] 300 = .ok [172, 9] ∧
    decode .u8 [172, 9] = .ok 44 := by
  obtain ⟨-, stored, x, -, hrun, hunique, -⟩ := stored_samples_read_back (f := .u8) rfl 300
  obtain ⟨hwrite, hencode, -, hdecode⟩ := hrun [9, 9] (by decide)
  have hx : (44 : Int) = x.toInt := (hunique 44).mp ⟨by decide, by decide⟩
  have hstored : encode .u8 [9, 9] 300 = .ok [172, 9] := by decide
  have hafter : stored ++ [9] = [172, 9] := Except.ok.inj (hencode.symm.trans hstored)
  rw [← hx] at hdecode
  rw [← hafter]
  exact ⟨hwrite, hencode, hdecode⟩

/-! ### From slots to samples and back -/

/-- The bytes that a sample leaves free are filled as storing fills them: a zero byte in the formats
that name their byte order, and the spread sign where the host's order is used. -/
def Canonical : Format → List UInt8 → Prop
  | .s24le, slot => slot[3]? = some 0
  | .s24be, slot => slot[0]? = some 0
  | .s24, slot => ∃ top, slot[2]? = some top ∧ slot[3]? = some (if 0x80 ≤ top then 0xFF else 0)
  | _, _ => True

/-- A slot comes back when the word that is stored for its sample is the one that it holds. -/
theorem slot_ofSlot_eq_iff (hl : l.Proper) {bytes : List UInt8}
    (hlength : bytes.length = l.byteWidth) :
    slot l (ofSlot l bytes) = bytes ↔
      storedWord l (ofSlot l bytes) = ofOrderedBytes l.byteOrder bytes := by
  constructor
  · intro hslot
    have hword := congrArg (ofOrderedBytes l.byteOrder) hslot
    rwa [slot, ofOrderedBytes_orderedBytes, Nat.mod_eq_of_lt (storedWord_lt_width hl _)] at hword
  · intro hword
    rw [slot, hword, ← hlength, orderedBytes_ofOrderedBytes]

/-- Unless its sign is spread, a sample is stored as the low bits that it was read from. -/
theorem storedWord_ofSlot (hpadding : l.padding ≠ .signExtend) (bytes : List UInt8) :
    storedWord l (ofSlot l bytes) = ofOrderedBytes l.byteOrder bytes % 2 ^ l.bitDepth := by
  have hstored : storedBits l = l.bitDepth := by
    cases hcase : l.padding with
    | signExtend => exact absurd hcase hpadding
    | none | zero => rw [storedBits, hcase]
  have hbiased : (ofSlot l bytes + l.bias) % (2 ^ l.bitDepth : Nat) =
      (ofOrderedBytes l.byteOrder bytes % 2 ^ l.bitDepth : Nat) := by
    cases hsigned : l.signed with
    | true =>
      have hbias : l.bias = 0 := by simp [Layout.bias, hsigned]
      rw [ofSlot, if_pos hsigned, hbias, Int.natCast_zero, Int.add_zero]
      refine Int.bmod_emod.trans ?_
      rw [← Int.natCast_mod]
      exact congrArg _ (Nat.mod_mod _ _)
    | false =>
      rw [ofSlot, if_neg (by simp [hsigned]), Int.sub_add_cancel, ← Int.natCast_mod]
      exact congrArg _ (Nat.mod_mod _ _)
  rw [storedWord, hstored]
  exact congrArg Int.toNat hbiased

theorem eq_four_of_length {bytes : List UInt8} (h : bytes.length = 4) :
    ∃ a b c d, bytes = [a, b, c, d] := by
  match bytes, h with
  | [a, b, c, d], _ => exact ⟨a, b, c, d, rfl⟩

/-- Four bytes make up a number of three exactly when the last of them is zero. -/
theorem ofLittleEndian_mod_eq_iff (a b c d : UInt8) :
    ofLittleEndian [a, b, c, d] % 2 ^ 24 = ofLittleEndian [a, b, c, d] ↔ d = 0 := by
  have ha := a.toNat_lt
  have hb := b.toNat_lt
  have hc := c.toNat_lt
  rw [← UInt8.toNat_inj, UInt8.toNat_zero]
  simp only [ofLittleEndian]
  omega

/-- The sign of three bytes fills the fourth with ones or with zeros. -/
theorem storedWord_ofSlot_eq_iff (a b c d : UInt8) :
    storedWord ⟨24, 4, .native, true, .signExtend⟩
        (ofSlot ⟨24, 4, .native, true, .signExtend⟩ [a, b, c, d]) = ofLittleEndian [a, b, c, d] ↔
      d = if 0x80 ≤ c then 0xFF else 0 := by
  have ha := a.toNat_lt
  have hb := b.toNat_lt
  have hc := c.toNat_lt
  have hd := d.toNat_lt
  have hword : ofLittleEndian [a, b, c, d] =
      a.toNat + 256 * b.toNat + 65536 * c.toNat + 16777216 * d.toNat := by
    simp only [ofLittleEndian]
    omega
  have hsigned : Nat.pow 2 24 = 16777216 := by decide
  have hspread : Nat.pow 2 (8 * 4) = 4294967296 := by decide
  have htop : (0x80 : UInt8).toNat = 128 := rfl
  have hones : (0xFF : UInt8).toNat = 255 := rfl
  rw [hword, ← UInt8.toNat_inj]
  simp only [storedWord, storedBits, ofSlot, ofOrderedBytes, hword, if_true, Layout.bias, hsigned,
    hspread, Int.bmod_def, UInt8.le_iff_toNat_le, htop]
  by_cases hnegative : 128 ≤ c.toNat
  · rw [if_neg (by omega), if_pos hnegative, hones]
    omega
  · rw [if_pos (by omega), if_neg hnegative, UInt8.toNat_zero]
    omega

/-- A slot comes back from its sample exactly when it is canonical. -/
theorem slot_ofSlot_eq_iff_canonical (hl : f.layout? = some l) {bytes : List UInt8}
    (hlength : bytes.length = l.byteWidth) :
    slot l (ofSlot l bytes) = bytes ↔ Canonical f bytes := by
  have hlt := ofOrderedBytes_lt l.byteOrder bytes
  rw [hlength] at hlt
  rw [slot_ofSlot_eq_iff (Format.proper hl) hlength]
  cases f <;> cases hl
  case s24le =>
    obtain ⟨a, b, c, d, rfl⟩ := eq_four_of_length hlength
    rw [storedWord_ofSlot (by decide)]
    exact (ofLittleEndian_mod_eq_iff a b c d).trans Option.some_inj.symm
  case s24be =>
    obtain ⟨a, b, c, d, rfl⟩ := eq_four_of_length hlength
    rw [storedWord_ofSlot (by decide)]
    exact (ofLittleEndian_mod_eq_iff d c b a).trans Option.some_inj.symm
  case s24 =>
    obtain ⟨a, b, c, d, rfl⟩ := eq_four_of_length hlength
    refine (storedWord_ofSlot_eq_iff a b c d).trans ?_
    simp [Canonical]
  all_goals
    rw [storedWord_ofSlot (by decide)]
    exact iff_of_true (Nat.mod_eq_of_lt hlt) trivial

/-- Whatever the bytes are, a sample that is read is in the range of its format. -/
theorem inRange_ofSlot (hl : l.Proper) (bytes : List UInt8) : l.InRange (ofSlot l bytes) := by
  cases hsigned : l.signed with
  | true =>
    rw [ofSlot, if_pos hsigned]
    exact inRange_bmod hl _
  | false =>
    have hdouble := two_mul_bias hl hsigned
    have hbias : ((2 : Int) ^ (l.bitDepth - 1)) = l.bias := by
      simp only [Layout.bias, hsigned, Bool.false_eq_true, if_false]
      exact (Int.natCast_pow 2 _).symm
    have hlt : ofOrderedBytes l.byteOrder bytes % Nat.pow 2 l.bitDepth < 2 ^ l.bitDepth :=
      Nat.mod_lt _ (Nat.two_pow_pos _)
    rw [ofSlot, if_neg (by simp [hsigned]), Layout.InRange, hbias]
    omega

/-- Reading a slot of the format's width gives its sample. -/
theorem read_eq_ok_iff (hl : f.layout? = some l) {bytes : List UInt8}
    (hlength : bytes.length = l.byteWidth) (x : Int64) :
    read f bytes = .ok x ↔ x.toInt = ofSlot l bytes := by
  obtain ⟨y, hread, hy⟩ := read_eq_ok hl (Nat.le_of_eq hlength.symm)
  rw [List.take_of_length_le (Nat.le_of_eq hlength)] at hy
  rw [hread, ← hy, Int64.toInt_inj]
  constructor
  · intro h
    exact (Except.ok.inj h).symm
  · rintro rfl
    rfl

/-- In a room of just its width a slot is all that is left. -/
theorem runOn_write_room (hl : f.layout? = some l) (x : Int64) {room : List UInt8}
    (hroom : room.length = l.byteWidth) :
    (write f x).runOn room = (.ok l.byteWidth, slot l x.toInt) := by
  rw [runOn_write hl x (Nat.le_of_eq hroom.symm), List.drop_of_length_le (Nat.le_of_eq hroom),
    List.append_nil]

/-- The slots of a format that storing can leave. -/
def canonicalSlots (f : Format) (l : Layout) : Set (List UInt8) :=
  {bytes | bytes.length = l.byteWidth ∧ Canonical f bytes}

/-- The samples of a format's range. -/
def samplesInRange (l : Layout) : Set Int64 := {x | l.InRange x.toInt}

theorem slot_mem_canonicalSlots (hl : f.layout? = some l) {x : Int64} (hx : x ∈ samplesInRange l) :
    slot l x.toInt ∈ canonicalSlots f l ∧ read f (slot l x.toInt) = .ok x := by
  have hlength := length_slot l x.toInt
  have hback : x.toInt = ofSlot l (slot l x.toInt) := by
    rw [ofSlot_slot (Format.proper hl), bmod_of_inRange (Format.proper hl) hx]
  refine ⟨⟨hlength, ?_⟩, (read_eq_ok_iff hl hlength x).mpr hback⟩
  rw [← slot_ofSlot_eq_iff_canonical hl hlength, ← hback]

/-- A canonical slot is read as the one sample in range that is stored as that slot. -/
theorem read_canonical_iff (hl : f.layout? = some l) {bytes : List UInt8}
    (hbytes : bytes ∈ canonicalSlots f l) (x : Int64) :
    read f bytes = .ok x ↔ x ∈ samplesInRange l ∧ slot l x.toInt = bytes := by
  obtain ⟨hlength, hcanonical⟩ := hbytes
  constructor
  · intro hread
    have hx := (read_eq_ok_iff hl hlength x).mp hread
    have hrange : l.InRange x.toInt := hx ▸ inRange_ofSlot (Format.proper hl) bytes
    have hslot := (slot_ofSlot_eq_iff_canonical hl hlength).mpr hcanonical
    rw [← hx] at hslot
    exact ⟨hrange, hslot⟩
  · rintro ⟨hx, rfl⟩
    exact (slot_mem_canonicalSlots hl hx).2

theorem read_bijOn (hl : f.layout? = some l) :
    Set.BijOn (read f) (canonicalSlots f l) (Except.ok '' samplesInRange l) := by
  refine ⟨?_, ?_, ?_⟩
  · intro bytes hbytes
    obtain ⟨x, hread, -⟩ := read_eq_ok hl (Nat.le_of_eq hbytes.1.symm)
    exact ⟨x, ((read_canonical_iff hl hbytes x).mp hread).1, hread.symm⟩
  · intro bytes hbytes others hothers hsame
    obtain ⟨x, hread, -⟩ := read_eq_ok hl (Nat.le_of_eq hbytes.1.symm)
    have hslot := ((read_canonical_iff hl hbytes x).mp hread).2
    have hslot' := ((read_canonical_iff hl hothers x).mp (hsame.symm.trans hread)).2
    exact hslot.symm.trans hslot'
  · rintro _ ⟨x, hx, rfl⟩
    exact ⟨slot l x.toInt, slot_mem_canonicalSlots hl hx⟩

theorem write_bijOn (hl : f.layout? = some l) {room : List UInt8}
    (hroom : room.length = l.byteWidth) :
    Set.BijOn (fun x => (write f x).runOn room) (samplesInRange l)
      ((fun slot => (.ok l.byteWidth, slot)) '' canonicalSlots f l) := by
  refine ⟨?_, ?_, ?_⟩
  · intro x hx
    exact ⟨slot l x.toInt, (slot_mem_canonicalSlots hl hx).1, (runOn_write_room hl x hroom).symm⟩
  · intro x hx y hy hsame
    have hslot : slot l x.toInt = slot l y.toInt := by
      simpa only [runOn_write_room hl _ hroom, Prod.mk.injEq, true_and] using hsame
    have hread := (slot_mem_canonicalSlots hl hx).2
    rw [hslot, (slot_mem_canonicalSlots hl hy).2] at hread
    exact (Except.ok.inj hread).symm
  · rintro _ ⟨bytes, hbytes, rfl⟩
    obtain ⟨x, hread, -⟩ := read_eq_ok hl (Nat.le_of_eq hbytes.1.symm)
    obtain ⟨hx, hslot⟩ := (read_canonical_iff hl hbytes x).mp hread
    rw [← hslot]
    exact ⟨x, hx, runOn_write_room hl x hroom⟩

/-- Any slot is read as a sample in range. Storing that sample leaves the slot exactly when it was
canonical, and in any case one that is read as the same sample. So reading takes the canonical slots
one to one to the samples in range, storing takes these one to one to the canonical slots, and each
undoes the other. -/
theorem canonical_slots_are_samples {f : Format} {l : Layout} (hl : f.layout? = some l)
    {room : List UInt8} (hroom : room.length = l.byteWidth) :
    (∀ bytes : List UInt8, bytes.length = l.byteWidth → ∃ (x : Int64) (again : List UInt8),
      read f bytes = .ok x ∧ decode f bytes = .ok x.toInt ∧ l.InRange x.toInt ∧
      (write f x).runOn room = (.ok l.byteWidth, again) ∧ encode f room x.toInt = .ok again ∧
      (again = bytes ↔ Canonical f bytes) ∧
      read f again = .ok x ∧ decode f again = .ok x.toInt) ∧
    Set.BijOn (read f) (canonicalSlots f l) (Except.ok '' samplesInRange l) ∧
    Set.BijOn (fun x => (write f x).runOn room) (samplesInRange l)
      ((fun slot => (.ok l.byteWidth, slot)) '' canonicalSlots f l) ∧
    ∀ slot ∈ canonicalSlots f l, ∀ x ∈ samplesInRange l,
      read f slot = .ok x ↔ (write f x).runOn room = (.ok l.byteWidth, slot) := by
  have hproper := Format.proper hl
  refine ⟨?_, read_bijOn hl, write_bijOn hl hroom, ?_⟩
  · intro bytes hlength
    obtain ⟨x, hread, hx⟩ := read_eq_ok hl (Nat.le_of_eq hlength.symm)
    have hdecode := decode_eq_ok hl (Nat.le_of_eq hlength.symm)
    rw [← hx] at hdecode
    rw [List.take_of_length_le (Nat.le_of_eq hlength)] at hx
    have hrange : l.InRange x.toInt := hx ▸ inRange_ofSlot hproper bytes
    have hencode := encode_eq_ok hl x.toInt (Nat.le_of_eq hroom.symm)
    rw [List.drop_of_length_le (Nat.le_of_eq hroom), List.append_nil] at hencode
    have hcanonical := slot_ofSlot_eq_iff_canonical hl hlength
    rw [← hx] at hcanonical
    obtain ⟨y, hagain, hdecodeAgain, hy⟩ := read_slot hl x []
    rw [List.append_nil] at hagain hdecodeAgain
    obtain rfl : y = x := Int64.toInt_inj.mp (hy.trans (bmod_of_inRange hproper hrange))
    exact ⟨y, slot l y.toInt, hread, hdecode, hrange, runOn_write_room hl y hroom, hencode,
      hcanonical, hagain, hdecodeAgain⟩
  · intro bytes hbytes x hx
    rw [read_canonical_iff hl hbytes, runOn_write_room hl x hroom]
    simp [hx]

/-- In the host's order the sign fills the fourth byte, and one that is only zeroed is lost. -/
theorem canonical_slots_are_samples_zeroed_sign :
    decode .s24 [0, 0, 0x80, 0] = .ok (-0x800000) ∧
    encode .s24 [9, 9, 9, 9] (-0x800000) ≠ .ok [0, 0, 0x80, 0] := by
  have hroom : ([9, 9, 9, 9] : List UInt8).length = 4 := rfl
  obtain ⟨hslots, -⟩ := canonical_slots_are_samples (f := .s24) rfl hroom
  obtain ⟨x, again, -, hdecode, -, -, hencode, hcanonical, -⟩ := hslots [0, 0, 0x80, 0] rfl
  have hread : decode .s24 [0, 0, 0x80, 0] = .ok (-0x800000) := by decide
  have hx : x.toInt = -0x800000 := Except.ok.inj (hdecode.symm.trans hread)
  refine ⟨hread, ?_⟩
  intro hsame
  rw [← hx, hencode] at hsame
  obtain ⟨top, htop, hsign⟩ := hcanonical.mp (Except.ok.inj hsame)
  cases htop
  exact absurd hsign (by decide)

end Pcm
end Hush
