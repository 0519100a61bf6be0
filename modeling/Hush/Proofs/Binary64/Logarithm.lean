import Hush.Binary64.Log2
import Hush.Proofs.Binary64.Order

/-!
# The logarithm rises

A digit of the logarithm is one where the square reaches two, so of two numbers the larger one has
the first digit that differs, whatever digits come after it. Cutting off the digits and rounding
their sum leave that order alone.
-/
namespace Hush.Binary64

/-! ### Digits by squaring -/

/-- Digits taken later stand below the ones read. -/
theorem logDigitsOf_bounds (n y read : Nat) :
    read * 2 ^ n ≤ logDigitsOf n y read ∧ logDigitsOf n y read < (read + 1) * 2 ^ n := by
  induction n generalizing y read with
  | zero => simp [logDigitsOf]
  | succ n ih =>
    rw [logDigitsOf, pow_succ]
    split
    · have h := ih (y * y / Nat.pow 2 logPlaces / 2) (2 * read + 1)
      constructor <;> nlinarith
    · have h := ih (y * y / Nat.pow 2 logPlaces) (2 * read)
      constructor <;> nlinarith

/-- The induction follows the squares while their digits are the same. At the first digit that
differs the bounds decide. -/
theorem logDigitsOf_mono (n : Nat) {y z : Nat} (h : y ≤ z) (read : Nat) :
    logDigitsOf n y read ≤ logDigitsOf n z read := by
  induction n generalizing y z read with
  | zero => exact le_rfl
  | succ n ih =>
    have hsquare : y * y / Nat.pow 2 logPlaces ≤ z * z / Nat.pow 2 logPlaces :=
      Nat.div_le_div_right (Nat.mul_le_mul h h)
    simp only [logDigitsOf]
    split_ifs with hy hz hz
    · exact ih (Nat.div_le_div_right hsquare) _
    · exact absurd (hy.trans hsquare) hz
    · calc logDigitsOf n (y * y / Nat.pow 2 logPlaces) (2 * read)
          ≤ (2 * read + 1) * 2 ^ n := (logDigitsOf_bounds _ _ _).2.le
        _ ≤ _ := (logDigitsOf_bounds _ _ _).1
    · exact ih hsquare _

/-! ### Units -/

/-- The number of units between one and two, in fixed point. -/
def mantissa (n : Nat) : Nat := n * Nat.pow 2 logPlaces / Nat.pow 2 n.log2

theorem logOfUnits_eq (n : Nat) :
    logOfUnits n = ((n.log2 : Int) - 1074) * 2 ^ logDigits + logDigitsOf logDigits (mantissa n) 0 :=
  rfl

theorem logOfUnits_mono {m n : Nat} (hm : m ≠ 0) (h : m ≤ n) : logOfUnits m ≤ logOfUnits n := by
  have htop : m.log2 ≤ n.log2 := (Nat.le_log2 (by omega)).mpr ((Nat.log2_self_le hm).trans h)
  rw [logOfUnits_eq, logOfUnits_eq]
  rcases htop.eq_or_lt with heq | hlt
  · have hmantissa : mantissa m ≤ mantissa n := by
      rw [mantissa, mantissa, heq]
      exact Nat.div_le_div_right (Nat.mul_le_mul_right _ h)
    rw [heq]
    exact Int.add_le_add_left (Int.ofNat_le.mpr (logDigitsOf_mono logDigits hmantissa 0)) _
  · -- All digits of the smaller number are below one in the place where the other is larger.
    have hdigits : (logDigitsOf logDigits (mantissa m) 0 : Int) ≤ 2 ^ logDigits := by
      have hbound := (logDigitsOf_bounds logDigits (mantissa m) 0).2.le
      rw [zero_add, one_mul] at hbound
      exact_mod_cast hbound
    have hplace : ((m.log2 : Int) - 1074 + 1) * 2 ^ logDigits ≤
        ((n.log2 : Int) - 1074) * 2 ^ logDigits :=
      Int.mul_le_mul_of_nonneg_right (by omega) (by positivity)
    calc ((m.log2 : Int) - 1074) * 2 ^ logDigits + logDigitsOf logDigits (mantissa m) 0
        ≤ ((m.log2 : Int) - 1074) * 2 ^ logDigits + 2 ^ logDigits := Int.add_le_add_left hdigits _
      _ = ((m.log2 : Int) - 1074 + 1) * 2 ^ logDigits := by ring
      _ ≤ ((n.log2 : Int) - 1074) * 2 ^ logDigits := hplace
      _ ≤ _ := Int.le_add_of_nonneg_right (Int.natCast_nonneg _)

/-! ### Patterns -/

variable {x y : Binary64} {p q : Rat}

theorem units_pos (hx : x.datum = .number p) (hp : 0 < p) : units x.magnitude ≠ 0 := by
  obtain ⟨-, hvalue⟩ := datum_eq_number hx
  rintro hzero
  rw [isNegative_of_pos hx hp, hzero, ofUnits_false, Nat.cast_zero, zero_div] at hvalue
  exact hp.ne hvalue

theorem units_le_units (hx : x.datum = .number p) (hy : y.datum = .number q) (hp : 0 < p)
    (h : p ≤ q) : units x.magnitude ≤ units y.magnitude := by
  obtain ⟨-, hxvalue⟩ := datum_eq_number hx
  obtain ⟨-, hyvalue⟩ := datum_eq_number hy
  rw [isNegative_of_pos hx hp, ofUnits_false] at hxvalue
  rw [isNegative_of_pos hy (hp.trans_le h), ofUnits_false] at hyvalue
  rw [← hxvalue, ← hyvalue, div_le_div_iff_of_pos_right unitsPerOne_pos] at h
  exact_mod_cast h

theorem log2_of_pos (hx : x.datum = .number p) (hp : 0 < p) :
    log2 x = nearest false ((logOfUnits (units x.magnitude) : Rat) / (Nat.pow 2 logDigits : Nat)) := by
  simp only [log2, hx, if_neg hp.ne', if_neg hp.not_gt]

theorem log2_of_infinite (hx : x.datum = .infinite false) : log2 x = infinity false := by
  simp [log2, hx]

/-- What is above zero is a positive number or the infinity above all numbers. -/
theorem pos_cases (hx : 0 < x) :
    (∃ p, x.datum = .number p ∧ 0 < p) ∨ x.datum = .infinite false := by
  obtain ⟨-, hordered⟩ := ordered_of_le (Or.inl hx)
  rcases le_cases (Or.inl hx) with ⟨q, p, -, hp, -⟩ | hbottom | htop
  · exact Or.inl ⟨p, hp, (lt_iff datum_zero hp).mp hx⟩
  · cases datum_zero.symm.trans hbottom
  · exact Or.inr htop

theorem ordered_log2 (hx : 0 < x) : (log2 x).Ordered := by
  rcases pos_cases hx with ⟨p, hp, hpos⟩ | htop
  · rw [log2_of_pos hp hpos]
    exact ordered_nearest _ _
  · rw [log2_of_infinite htop]
    exact .of_infinite (datum_infinity false)

theorem log2_mono (hx : 0 < x) (h : x ≤ y) : log2 x ≤ log2 y := by
  rcases le_cases h with ⟨p, q, hp, hq, hpq⟩ | hbottom | htop
  · have hpos : 0 < p := (lt_iff datum_zero hp).mp hx
    rw [log2_of_pos hp hpos, log2_of_pos hq (hpos.trans_le hpq)]
    apply nearest_mono
    have hunits := logOfUnits_mono (units_pos hp hpos) (units_le_units hp hq hpos hpq)
    exact div_le_div_of_nonneg_right (by exact_mod_cast hunits) (Nat.cast_nonneg _)
  · rcases pos_cases hx with ⟨p, hp, -⟩ | htop
    · cases hp.symm.trans hbottom
    · cases htop.symm.trans hbottom
  · rw [log2_of_infinite htop]
    exact le_ceiling (ordered_log2 hx) (datum_infinity false)

/-- What is asked of a logarithm: it rises over what is positive and is zero at one. -/
structure Logarithmic (log2 : Binary64 → Binary64) : Prop where
  mono : ∀ {x y}, 0 < x → x ≤ y → log2 x ≤ log2 y
  one : Same (log2 1) 0

theorem logarithmic_log2 : Logarithmic log2 := ⟨log2_mono, by decide +kernel⟩

end Hush.Binary64
