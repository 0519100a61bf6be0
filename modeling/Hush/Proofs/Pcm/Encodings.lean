import Hush.Proofs.Pcm.Words

/-!
# One sample in all formats

What a sample is written as in one format settles what it is written as in the others: the byte
order turns the bytes around, the depth cuts them off, the padding adds zeros, and the offset of
unsigned bytes turns over one bit. This holds for samples beyond the range of a format as well,
where the two ways to fill a slot of four bytes differ.
-/
namespace Hush.Pcm

open Silence (Work)

/-! ### The bytes of a number -/

theorem littleEndian_append (v w n : Nat) :
    littleEndian (v + w) n = littleEndian v n ++ littleEndian w (n / 256 ^ v) := by
  induction v generalizing n with
  | zero => rw [Nat.zero_add, Nat.pow_zero, Nat.div_one]; rfl
  | succ v ih =>
    have hpow : 256 ^ (v + 1) = 256 * 256 ^ v := Nat.pow_succ'
    rw [Nat.succ_add, littleEndian, littleEndian, ih, hpow, Nat.div_div_eq_div_mul]
    rfl

theorem littleEndian_zero (w : Nat) : littleEndian w 0 = List.replicate w 0 := by
  induction w with
  | zero => rfl
  | succ w ih => rw [littleEndian, Nat.zero_div, ih]; rfl

theorem take_littleEndian (v w n : Nat) : (littleEndian (v + w) n).take v = littleEndian v n := by
  rw [littleEndian_append]
  exact List.take_left' (length_littleEndian v n)

/-- The low bytes of a number are those of its remainder. -/
theorem littleEndian_mod (w n : Nat) : littleEndian w (n % 256 ^ w) = littleEndian w n := by
  have hback := littleEndian_ofLittleEndian (littleEndian w n)
  rwa [length_littleEndian, ofLittleEndian_littleEndian] at hback

/-- A number of a few bytes takes zeros behind them. -/
theorem littleEndian_of_lt {v w n : Nat} (hw : v ≤ w) (hn : n < 256 ^ v) :
    littleEndian w n = littleEndian v n ++ List.replicate (w - v) 0 := by
  obtain ⟨rest, rfl⟩ := Nat.exists_eq_add_of_le hw
  rw [littleEndian_append, Nat.div_eq_of_lt hn, littleEndian_zero, Nat.add_sub_cancel_left]

theorem getElem?_littleEndian {w n k : Nat} (hk : k < w) :
    (littleEndian w n)[k]? = some (UInt8.ofNat (n / 256 ^ k % 256)) := by
  obtain ⟨rest, rfl⟩ := Nat.exists_eq_add_of_lt hk
  rw [Nat.add_assoc, littleEndian_append, List.getElem?_append_right (length_littleEndian k n).le,
    length_littleEndian, Nat.sub_self]
  rfl

/-! ### Two's complement -/

/-- The bytes of a word that is made of whole bytes, the lowest first. -/
def bytesOfBits {n : Nat} (word : BitVec n) : List UInt8 :=
  (List.range (n / 8)).map fun k => ⟨word.extractLsb' (8 * k) 8⟩

/-- Bytes given from the lowest on, in the given order. -/
def inOrder (o : ByteOrder) (lowFirst : List UInt8) : List UInt8 :=
  match o with
  | .big => lowFirst.reverse
  | .little | .native => lowFirst

theorem orderedBytes_eq_inOrder (o : ByteOrder) (w n : Nat) :
    orderedBytes o w n = inOrder o (littleEndian w n) := by
  cases o <;> rfl

theorem bytesOfBits_eq_littleEndian {n : Nat} (word : BitVec n) :
    bytesOfBits word = littleEndian (n / 8) word.toNat := by
  apply List.ext_getElem?
  intro k
  by_cases hk : k < n / 8
  · rw [bytesOfBits, List.getElem?_map, List.getElem?_range hk, getElem?_littleEndian hk]
    have hbyte : (word.extractLsb' (8 * k) 8).toNat = word.toNat / 256 ^ k % 256 := by
      rw [BitVec.extractLsb'_toNat, Nat.shiftRight_eq_div_pow, Nat.pow_mul]
    rw [← hbyte]
    refine congrArg some (UInt8.toNat_inj.mp ?_)
    rw [UInt8.toNat_ofNat', Nat.mod_eq_of_lt (BitVec.isLt _)]
    rfl
  · have hlong : n / 8 ≤ k := Nat.le_of_not_lt hk
    rw [List.getElem?_eq_none (by simpa [bytesOfBits] using hlong),
      List.getElem?_eq_none (by simpa using hlong)]

variable {f : Format} {l : Layout}

/-- The bits that are stored are those of the biased sample in two's complement. -/
theorem storedWord_eq_toNat (l : Layout) (v : Int) :
    storedWord l v = (BitVec.ofInt (storedBits l) (v + l.bias)).toNat := by
  rw [BitVec.toNat_ofInt]
  rfl

/-- A slot holds the biased sample in two's complement, with zeros up to its width. -/
theorem slot_eq_inOrder (hl : f.layout? = some l) (v : Int) :
    slot l v = inOrder l.byteOrder
      (bytesOfBits (BitVec.ofInt (storedBits l) (v + l.bias)) ++
        List.replicate (l.byteWidth - storedBits l / 8) 0) := by
  have hwhole : storedBits l / 8 ≤ l.byteWidth ∧ 2 ^ storedBits l = 256 ^ (storedBits l / 8) := by
    cases f <;> cases hl <;> decide
  have hword : storedWord l v < 256 ^ (storedBits l / 8) := hwhole.2 ▸ storedWord_lt l v
  rw [bytesOfBits_eq_littleEndian, ← storedWord_eq_toNat, ← littleEndian_of_lt hwhole.1 hword]
  exact orderedBytes_eq_inOrder _ _ _

/-! ### Formats compared -/

/-- The bytes that a sample is written as; none in a format without a layout. -/
def written (f : Format) (v : Int64) : List UInt8 :=
  match f.layout? with
  | some l => slot l v.toInt
  | none => []

theorem written_of_layout (hl : f.layout? = some l) (v : Int64) :
    written f v = slot l v.toInt := by
  rw [written, hl]

/-- A format that keeps just the depth of another keeps the low bits that it stores. -/
theorem storedWord_eq_mod {l m : Layout} (hm : m.Proper) (hbias : l.bias = m.bias)
    (hbits : storedBits l = m.bitDepth) (v : Int) :
    storedWord l v = storedWord m v % 2 ^ m.bitDepth := by
  have hlow := storedWord_mod hm v
  rw [storedWord, hbits, hbias]
  exact (congrArg Int.toNat hlow).symm

/-- Adding half of the range of a byte turns over its top bit. -/
theorem ofNat_add_half : ∀ r < 256, UInt8.ofNat ((r + 128) % 256) = UInt8.ofNat r ^^^ 0x80 := by
  decide +kernel

theorem take_written_s24le (v : Int64) : (written .s24le v).take 3 = written .s24le3 v :=
  take_littleEndian 3 1 _

theorem take_written_s24 (v : Int64) : (written .s24 v).take 3 = written .s24le3 v := by
  let spread : Layout := ⟨24, 4, .native, true, .signExtend⟩
  let packed : Layout := ⟨24, 3, .little, true, .none⟩
  have hlow : storedWord packed v.toInt = storedWord spread v.toInt % 256 ^ 3 :=
    storedWord_eq_mod (l := packed) (m := spread) (Format.proper (f := .s24) rfl) rfl rfl v.toInt
  calc (written .s24 v).take 3 = littleEndian 3 (storedWord spread v.toInt) :=
        take_littleEndian 3 1 _
    _ = littleEndian 3 (storedWord packed v.toInt) := by rw [hlow, littleEndian_mod]

theorem getLast?_written_s24le (v : Int64) : (written .s24le v).getLast? = some 0 := by
  let zeroed : Layout := ⟨24, 4, .little, true, .zero⟩
  have hpadded : written .s24le v = littleEndian 3 (storedWord zeroed v.toInt) ++ [0] :=
    littleEndian_of_lt (by decide) (storedWord_lt zeroed v.toInt)
  rw [hpadded, List.getLast?_concat]

theorem written_u8 (v : Int64) : written .u8 v = (written .s8 v).map (· ^^^ 0x80) := by
  let r := (v.toInt % 256).toNat
  have hr : r < 256 := by omega
  have hsigned : written .s8 v = [UInt8.ofNat r] := by
    show littleEndian 1 ((v.toInt + (0 : Nat)) % (256 : Nat)).toNat = _
    have hword : ((v.toInt + (0 : Nat)) % (256 : Nat)).toNat = r := by omega
    rw [hword, littleEndian, Nat.mod_eq_of_lt hr]
    rfl
  have hunsigned : written .u8 v = [UInt8.ofNat ((r + 128) % 256)] := by
    show littleEndian 1 ((v.toInt + (128 : Nat)) % (256 : Nat)).toNat = _
    have hword : ((v.toInt + (128 : Nat)) % (256 : Nat)).toNat = (r + 128) % 256 := by omega
    rw [hword, littleEndian, Nat.mod_mod]
    rfl
  rw [hsigned, hunsigned, ofNat_add_half r hr]
  rfl

/-- Every format's bytes of a sample follow from those of another format, and all are the sample in
two's complement, cut to the depth of the format. -/
theorem formats_write_alike (v : Int64) :
    (∀ f l, f.layout? = some l → (written f v).length = l.byteWidth ∧
      (∀ buffer : List UInt8, l.byteWidth ≤ buffer.length →
        let after := written f v ++ buffer.drop l.byteWidth
        (write f v).runOn buffer = (.ok l.byteWidth, after) ∧
        encode f buffer v.toInt = .ok after) ∧
      let bits := if f = .s24 then 32 else l.bitDepth
      let offset : Int := if f = .u8 then 128 else 0
      written f v = inOrder l.byteOrder (bytesOfBits (BitVec.ofInt bits (v.toInt + offset)) ++
        List.replicate (l.byteWidth - bits / 8) 0)) ∧
    written .s16be v = (written .s16le v).reverse ∧
    written .s24be v = (written .s24le v).reverse ∧
    written .s24be3 v = (written .s24le3 v).reverse ∧
    written .s32be v = (written .s32le v).reverse ∧
    written .s16 v = written .s16le v ∧
    written .s32 v = written .s32le v ∧ written .s32le v = written .s24 v ∧
    written .s24le3 v = (written .s24le v).take 3 ∧ written .s24le3 v = (written .s24 v).take 3 ∧
    (written .s24le v).getLast? = some 0 ∧
    written .u8 v = (written .s8 v).map (· ^^^ 0x80) := by
  refine ⟨?_, rfl, rfl, rfl, rfl, rfl, rfl, rfl, (take_written_s24le v).symm,
    (take_written_s24 v).symm, getLast?_written_s24le v, written_u8 v⟩
  intro f l hl
  have hwritten := written_of_layout hl v
  have hbits : storedBits l = if f = .s24 then 32 else l.bitDepth := by
    cases f <;> cases hl <;> decide
  have hoffset : (l.bias : Int) = if f = .u8 then 128 else 0 := by
    cases f <;> cases hl <;> decide
  rw [hwritten, ← hbits, ← hoffset]
  refine ⟨length_slot l v.toInt, ?_, slot_eq_inOrder hl v.toInt⟩
  intro buffer hroom
  exact ⟨runOn_write hl v hroom, encode_eq_ok hl v.toInt hroom⟩

end Hush.Pcm
