import Hush.Binary64
import Mathlib.Data.Rat.Floor
import Mathlib.Tactic.Linarith
import Mathlib.Tactic.Positivity

/-!
# Rounding

Rounding keeps the order of rationals and leaves alone what a pattern stands for already. The two
facts hold on the whole numbers first, then on the magnitudes, whose order is that of the units they
stand for, and then for rationals of both signs.
-/
namespace Hush.Binary64

/-! ### The nearest whole number -/

theorem floor_le_roundEven (q : Rat) : q.floor ≤ roundEven q := by
  unfold roundEven
  dsimp only
  split_ifs <;> omega

theorem roundEven_le_floor_add_one (q : Rat) : roundEven q ≤ q.floor + 1 := by
  unfold roundEven
  dsimp only
  split_ifs <;> omega

theorem roundEven_mono {p q : Rat} (h : p ≤ q) : roundEven p ≤ roundEven q := by
  rcases (Rat.floor_monotone h).eq_or_lt with heq | hlt
  · have hrest : p - q.floor ≤ q - q.floor := by linarith
    unfold roundEven
    dsimp only
    rw [heq]
    split_ifs <;> first | omega | (exfalso; linarith)
  · calc roundEven p ≤ p.floor + 1 := roundEven_le_floor_add_one p
      _ ≤ q.floor := hlt
      _ ≤ roundEven q := floor_le_roundEven q

theorem roundEven_intCast (n : Int) : roundEven n = n := by
  have hrest : ((n : Rat) - ((n : Rat).floor : Int)) < 1 / 2 := by
    rw [Rat.floor_intCast, sub_self]
    norm_num
  rw [roundEven, if_pos hrest, Rat.floor_intCast]

/-! ### Magnitudes -/

/-- How many places a number of units is over the ones that a fraction has. -/
def shift (s : Rat) : Nat := s.floor.toNat.log2 - 52

/-- The magnitude nearest to a number of units, with no end to the magnitudes. -/
def gridMagnitude (s : Rat) : Nat :=
  shift s * binade + (roundEven (s / (2 ^ shift s : Nat))).toNat

theorem nearestMagnitude_eq (q : Rat) :
    nearestMagnitude q = min (gridMagnitude (q * unitsPerOne)) infinityMagnitude := rfl

theorem shift_mono {s t : Rat} (h : s ≤ t) : shift s ≤ shift t := by
  have hfloor : s.floor.toNat ≤ t.floor.toNat := Int.toNat_le_toNat (Rat.floor_monotone h)
  by_cases hzero : s.floor.toNat = 0
  · simp [shift, hzero]
  · have hlog : s.floor.toNat.log2 ≤ t.floor.toNat.log2 :=
      (Nat.le_log2 (by omega)).mpr ((Nat.log2_self_le hzero).trans hfloor)
    exact Nat.sub_le_sub_right hlog 52

theorem div_shift_lt (s : Rat) : s / (2 ^ shift s : Nat) < (2 ^ 53 : Nat) := by
  have hlog : s.floor.toNat < 2 ^ (53 + shift s) := by
    calc s.floor.toNat < 2 ^ (s.floor.toNat.log2 + 1) := Nat.lt_log2_self
      _ ≤ 2 ^ (53 + shift s) := Nat.pow_le_pow_right (by decide) (by unfold shift; omega)
  have hlt : s < ((2 ^ (53 + shift s) : Nat) : Int) := Rat.floor_lt_iff.mp (by omega)
  rw [div_lt_iff₀ (by positivity), ← Nat.cast_mul, ← Nat.pow_add]
  exact_mod_cast hlt

theorem le_div_shift {s : Rat} (h : 0 < shift s) : (2 ^ 52 : Nat) ≤ s / (2 ^ shift s : Nat) := by
  have hzero : s.floor.toNat ≠ 0 := by
    intro hzero
    simp [shift, hzero] at h
  have hlog : 2 ^ (52 + shift s) ≤ s.floor.toNat := by
    have hshift : 52 + shift s = s.floor.toNat.log2 := by unfold shift at h ⊢; omega
    rw [hshift]
    exact Nat.log2_self_le hzero
  have hle : (((2 ^ (52 + shift s) : Nat) : Int) : Rat) ≤ s := Rat.le_floor_iff.mp (by omega)
  rw [le_div_iff₀ (by positivity), ← Nat.cast_mul, ← Nat.pow_add]
  exact_mod_cast hle

/-- Within one spacing the nearest whole numbers are in order. Where the spacing grows, the lower
number is rounded to the next power of two at most and the higher one to one at least. -/
theorem gridMagnitude_mono {s t : Rat} (h : s ≤ t) : gridMagnitude s ≤ gridMagnitude t := by
  unfold gridMagnitude
  rcases (shift_mono h).eq_or_lt with heq | hlt
  · rw [heq]
    have hdiv : s / (2 ^ shift t : Nat) ≤ t / (2 ^ shift t : Nat) :=
      div_le_div_of_nonneg_right h (by positivity)
    have hround := roundEven_mono hdiv
    omega
  · have hlow : roundEven (s / (2 ^ shift s : Nat)) ≤ 2 ^ 53 := by
      have hround := roundEven_mono (div_shift_lt s).le
      rwa [← Int.cast_natCast (2 ^ 53), roundEven_intCast] at hround
    have hhigh : 2 ^ 52 ≤ roundEven (t / (2 ^ shift t : Nat)) := by
      have hround := roundEven_mono (le_div_shift (s := t) (by omega))
      rwa [← Int.cast_natCast (2 ^ 52), roundEven_intCast] at hround
    have hbinade : binade = 2 ^ 52 := rfl
    rw [hbinade]
    omega

/-- A magnitude is a spacing and a whole number of it, and its units are their product. -/
theorem units_eq (m : Nat) :
    ∃ k c, units m = c * 2 ^ k ∧ m = k * binade + c ∧ c < 2 ^ 53 ∧ (k = 0 ∨ 2 ^ 52 ≤ c) := by
  have hbinade : binade = 2 ^ 52 := rfl
  by_cases hfield : exponentField m = 0
  · refine ⟨0, m % binade, ?_, ?_, ?_, Or.inl rfl⟩
    · rw [units, if_pos hfield, pow_zero, mul_one]
    all_goals rw [exponentField, hbinade] at hfield; rw [hbinade]; omega
  · refine ⟨exponentField m - 1, binade + m % binade, ?_, ?_, ?_, Or.inr ?_⟩
    · rw [units, if_neg hfield]
      rfl
    all_goals rw [exponentField, hbinade] at hfield; rw [hbinade]
    · rw [exponentField, hbinade]; omega
    all_goals omega

theorem shift_natCast (n : Nat) : shift (n : Rat) = n.log2 - 52 := by
  rw [shift, ← Int.cast_natCast, Rat.floor_intCast, Int.toNat_natCast]

theorem shift_of_units {k c : Nat} (hc : c < 2 ^ 53) (hk : k = 0 ∨ 2 ^ 52 ≤ c) :
    shift ((c * 2 ^ k : Nat) : Rat) = k := by
  rw [shift_natCast]
  rcases hk with rfl | hfull
  · have hlog : (c * 2 ^ 0).log2 < 53 := by
      by_cases hzero : c = 0
      · simp [hzero]
      · exact (Nat.log2_lt (by omega)).mpr (by omega)
    omega
  · have hlog : (c * 2 ^ k).log2 = 52 + k := by
      refine (Nat.log2_eq_iff (by positivity)).mpr ⟨?_, ?_⟩
      · rw [pow_add]
        exact Nat.mul_le_mul_right _ hfull
      · rw [show 52 + k + 1 = 53 + k by omega, pow_add]
        exact Nat.mul_lt_mul_of_pos_right hc (by positivity)
    omega

theorem gridMagnitude_units (m : Nat) : gridMagnitude (units m) = m := by
  obtain ⟨k, c, hunits, hm, hc, hk⟩ := units_eq m
  have hquotient : ((c * 2 ^ k : Nat) : Rat) / (2 ^ k : Nat) = (c : Int) := by
    rw [Nat.cast_mul, mul_div_cancel_right₀ _ (by positivity), Int.cast_natCast]
  rw [gridMagnitude, hunits, shift_of_units hc hk, hquotient, roundEven_intCast, Int.toNat_natCast]
  exact hm.symm

theorem units_injective {m n : Nat} (h : units m = units n) : m = n := by
  rw [← gridMagnitude_units m, h, gridMagnitude_units]

theorem units_mono {m n : Nat} (h : m ≤ n) : units m ≤ units n := by
  by_contra hlt
  have hback : gridMagnitude (units n) ≤ gridMagnitude (units m) :=
    gridMagnitude_mono (by exact_mod_cast (Nat.lt_of_not_le hlt).le)
  rw [gridMagnitude_units, gridMagnitude_units] at hback
  obtain rfl : m = n := by omega
  exact hlt le_rfl

/-! ### Rationals -/

/-- The rational nearest to a rational, if that is a number at all. -/
def rounded (q : Rat) : Rat := ofUnits (decide (q < 0)) (units (nearestMagnitude |q|))

/-- The nearest pattern is that of a number. -/
def Fits (q : Rat) : Prop := nearestMagnitude |q| < infinityMagnitude

theorem nearestMagnitude_mono {p q : Rat} (h : p ≤ q) :
    nearestMagnitude p ≤ nearestMagnitude q := by
  have hscaled : p * unitsPerOne ≤ q * unitsPerOne :=
    mul_le_mul_of_nonneg_right h (Nat.cast_nonneg _)
  exact min_le_min_right _ (gridMagnitude_mono hscaled)

theorem Fits.of_abs_le {p q : Rat} (hq : Fits q) (h : |p| ≤ |q|) : Fits p :=
  (nearestMagnitude_mono h).trans_lt hq

theorem unitsPerOne_eq : unitsPerOne = 2 ^ 1074 := by decide +kernel

theorem unitsPerOne_pos : (0 : Rat) < unitsPerOne := by
  rw [unitsPerOne_eq]
  positivity

theorem ofUnits_false (n : Nat) : ofUnits false n = n / unitsPerOne := rfl

theorem ofUnits_true (n : Nat) : ofUnits true n = -(n / unitsPerOne) := rfl

theorem ofUnits_false_nonneg (n : Nat) : 0 ≤ ofUnits false n :=
  div_nonneg (Nat.cast_nonneg n) unitsPerOne_pos.le

theorem ofUnits_false_mono {m n : Nat} (h : m ≤ n) : ofUnits false m ≤ ofUnits false n :=
  div_le_div_of_nonneg_right (by exact_mod_cast h) unitsPerOne_pos.le

theorem abs_ofUnits (negative : Bool) (n : Nat) : |ofUnits negative n| = ofUnits false n := by
  cases negative
  · exact abs_of_nonneg (ofUnits_false_nonneg n)
  · rw [ofUnits_true, abs_neg]
    exact abs_of_nonneg (ofUnits_false_nonneg n)

theorem rounded_of_nonneg {q : Rat} (h : 0 ≤ q) :
    rounded q = ofUnits false (units (nearestMagnitude q)) := by
  rw [rounded, abs_of_nonneg h, decide_eq_false (not_lt.mpr h)]

theorem rounded_zero : rounded 0 = 0 := by
  rw [rounded_of_nonneg le_rfl]
  decide +kernel

theorem rounded_neg (q : Rat) : rounded (-q) = -rounded q := by
  rcases lt_trichotomy q 0 with hneg | rfl | hpos
  · have hpos : 0 ≤ -q := by linarith
    rw [rounded_of_nonneg hpos, rounded, abs_of_neg hneg, decide_eq_true hneg, ofUnits_true,
      ofUnits_false, neg_neg]
  · rw [neg_zero, rounded_zero, neg_zero]
  · have hneg : -q < 0 := by linarith
    rw [rounded_of_nonneg hpos.le, rounded, abs_neg, abs_of_pos hpos, decide_eq_true hneg,
      ofUnits_true, ofUnits_false]

theorem rounded_nonneg {q : Rat} (h : 0 ≤ q) : 0 ≤ rounded q := by
  rw [rounded_of_nonneg h]
  exact ofUnits_false_nonneg _

theorem rounded_mono_of_nonneg {p q : Rat} (hp : 0 ≤ p) (h : p ≤ q) : rounded p ≤ rounded q := by
  rw [rounded_of_nonneg hp, rounded_of_nonneg (hp.trans h)]
  exact ofUnits_false_mono (units_mono (nearestMagnitude_mono h))

theorem rounded_mono {p q : Rat} (h : p ≤ q) : rounded p ≤ rounded q := by
  rcases le_or_gt 0 p with hp | hp
  · exact rounded_mono_of_nonneg hp h
  rcases le_or_gt 0 q with hq | hq
  · calc rounded p = -rounded (-p) := by rw [rounded_neg, neg_neg]
      _ ≤ 0 := neg_nonpos.mpr (rounded_nonneg (by linarith))
      _ ≤ rounded q := rounded_nonneg hq
  · have hneg : rounded (-q) ≤ rounded (-p) :=
      rounded_mono_of_nonneg (neg_nonneg.mpr hq.le) (neg_le_neg h)
    rw [rounded_neg, rounded_neg] at hneg
    exact neg_le_neg_iff.mp hneg

/-! ### Patterns -/

theorem ofMagnitude_self (x : Binary64) : ofMagnitude x.isNegative x.magnitude = x := by
  have hsign : signBit = 2 ^ 63 := rfl
  have hword : x.bits.toNat < 2 ^ 64 := x.bits.toNat_lt
  have hsum : (if x.isNegative then signBit else 0) + x.magnitude = x.bits.toNat := by
    rw [isNegative, magnitude, hsign]
    split_ifs with hnegative <;> simp only [decide_eq_true_eq] at hnegative <;> omega
  rw [ofMagnitude, hsum, UInt64.ofNat_toNat]

theorem datum_ofMagnitude (negative : Bool) {m : Nat} (h : m < infinityMagnitude) :
    (ofMagnitude negative m).datum = .number (ofUnits negative (units m)) := by
  have hinfinity : infinityMagnitude = 2047 * 2 ^ 52 := rfl
  have hsign : signBit = 2 ^ 63 := rfl
  have hbits : (ofMagnitude negative m).bits.toNat = (if negative then signBit else 0) + m := by
    rw [ofMagnitude, UInt64.toNat_ofNat']
    apply Nat.mod_eq_of_lt
    split <;> omega
  have hmagnitude : (ofMagnitude negative m).magnitude = m := by
    rw [magnitude, hbits, hsign]
    split <;> omega
  have hnegative : (ofMagnitude negative m).isNegative = negative := by
    rw [isNegative, hbits]
    cases negative <;> simp
    omega
  rw [datum, hmagnitude, hnegative, if_pos h]

/-- Both zeros stand for zero. -/
theorem datum_zeros (negative : Bool) : (ofMagnitude negative 0).datum = .number 0 := by
  cases negative <;> decide +kernel

theorem datum_eq_number {x : Binary64} {q : Rat} (h : x.datum = .number q) :
    x.magnitude < infinityMagnitude ∧ ofUnits x.isNegative (units x.magnitude) = q := by
  unfold datum at h
  split_ifs at h with hfinite
  exact ⟨hfinite, Datum.number.inj h⟩

/-- The number a pattern stands for is one that rounding leaves alone. -/
theorem rounded_of_datum {x : Binary64} {q : Rat} (h : x.datum = .number q) :
    Fits q ∧ rounded q = q := by
  obtain ⟨hfinite, hvalue⟩ := datum_eq_number h
  have hback : nearestMagnitude (ofUnits false (units x.magnitude)) = x.magnitude := by
    rw [nearestMagnitude_eq, ofUnits_false, div_mul_cancel₀ _ unitsPerOne_pos.ne',
      gridMagnitude_units, min_eq_left hfinite.le]
  have hround : rounded (ofUnits false (units x.magnitude)) = ofUnits false (units x.magnitude) := by
    rw [rounded_of_nonneg (ofUnits_false_nonneg _), hback]
  refine ⟨?_, ?_⟩
  · rwa [Fits, ← hvalue, abs_ofUnits, hback]
  · rw [← hvalue]
    cases x.isNegative
    · exact hround
    · rw [ofUnits_true, rounded_neg]
      exact congrArg Neg.neg hround

theorem datum_nearest (zeroNegative : Bool) {q : Rat} (h : Fits q) :
    (nearest zeroNegative q).datum = .number (rounded q) := by
  rcases lt_trichotomy q 0 with hneg | rfl | hpos
  · rw [Fits, abs_of_neg hneg] at h
    rw [nearest, if_neg hneg.ne, if_pos hneg, datum_ofMagnitude _ h, rounded, abs_of_neg hneg,
      decide_eq_true hneg]
  · rw [rounded_zero, nearest, if_pos rfl, datum_zeros]
  · rw [Fits, abs_of_pos hpos] at h
    rw [nearest, if_neg hpos.ne', if_neg (not_lt.mpr hpos.le), datum_ofMagnitude _ h,
      rounded_of_nonneg hpos.le]

end Hush.Binary64
