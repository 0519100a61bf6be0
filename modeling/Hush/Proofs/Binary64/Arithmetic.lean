import Hush.Proofs.Binary64.Rounding
import Mathlib.Tactic.NormNum

/-!
# Arithmetic on numbers

Between patterns that stand for numbers an operation is the exact one, rounded, as long as its
result fits, and the order is that of the numbers.
-/
namespace Hush.Binary64

variable {x y z : Binary64} {p q : Rat}

/-! ### Order -/

theorem lt_iff (hx : x.datum = .number p) (hy : y.datum = .number q) : x < y ↔ p < q := by
  change Below x y ↔ p < q
  rw [Below, hx, hy]

theorem le_iff (hx : x.datum = .number p) (hy : y.datum = .number q) : x ≤ y ↔ p ≤ q := by
  change x < y ∨ Same x y ↔ p ≤ q
  rw [lt_iff hx hy, Same, hx, hy, le_iff_lt_or_eq]

/-- What lies above a number lies above every lower number, infinite or not. -/
theorem le_of_le_of_lt (hx : x.datum = .number p) (hy : y.datum = .number q) (hle : p ≤ q)
    (hlt : y < z) : x ≤ z := by
  left
  change Below y z at hlt
  change Below x z
  rw [Below, hy] at hlt
  rw [Below, hx]
  cases hz : z.datum with
  | number r =>
    rw [hz] at hlt
    exact hle.trans_lt hlt
  | infinite negative => rwa [hz] at hlt
  | nan => rwa [hz] at hlt

/-- What lies between two numbers is a number. -/
theorem datum_of_le_of_le (hx : x.datum = .number p) (hz : z.datum = .number q) (hxy : x ≤ y)
    (hyz : y ≤ z) : ∃ r, y.datum = .number r ∧ p ≤ r ∧ r ≤ q := by
  cases hy : y.datum with
  | number r => exact ⟨r, rfl, (le_iff hx hy).mp hxy, (le_iff hy hz).mp hyz⟩
  | infinite negative =>
    change Below x y ∨ Same x y at hxy
    change Below y z ∨ Same y z at hyz
    simp only [Below, Same, hx, hy, hz, or_false] at hxy hyz
    cases hxy.symm.trans hyz
  | nan =>
    change Below x y ∨ Same x y at hxy
    simp only [Below, Same, hx, hy, or_false] at hxy

/-- What is the same as a number is that number. -/
theorem datum_of_same (h : Same x y) (hy : y.datum = .number q) : x.datum = .number q := by
  rw [Same, hy] at h
  cases hx : x.datum with
  | number p =>
    rw [hx] at h
    exact congrArg Datum.number h
  | infinite negative =>
    rw [hx] at h
    exact h.elim
  | nan =>
    rw [hx] at h
    exact h.elim

/-! ### The patterns of a number -/

theorem magnitude_eq_of_abs_eq (hx : x.datum = .number p) (hy : y.datum = .number q)
    (h : |p| = |q|) : x.magnitude = y.magnitude := by
  obtain ⟨-, hxvalue⟩ := datum_eq_number hx
  obtain ⟨-, hyvalue⟩ := datum_eq_number hy
  rw [← hxvalue, ← hyvalue, abs_ofUnits, abs_ofUnits, ofUnits_false, ofUnits_false,
    div_left_inj' unitsPerOne_pos.ne', Nat.cast_inj] at h
  exact units_injective h

theorem datum_zero : (0 : Binary64).datum = .number 0 := datum_zeros false

/-- There are two zeros. -/
theorem eq_zero_of_same (h : Same x 0) : ∃ negative, x = ofMagnitude negative 0 := by
  have hmagnitude : x.magnitude = 0 :=
    magnitude_eq_of_abs_eq (datum_of_same h datum_zero) datum_zero rfl
  exact ⟨x.isNegative, by rw [← hmagnitude, ofMagnitude_self]⟩

theorem isNegative_eq_decide (hx : x.datum = .number p) (hp : p ≠ 0) :
    x.isNegative = decide (p < 0) := by
  obtain ⟨-, hvalue⟩ := datum_eq_number hx
  have hunits := ofUnits_false_nonneg (units x.magnitude)
  cases hsign : x.isNegative with
  | false =>
    rw [hsign] at hvalue
    rw [decide_eq_false (not_lt.mpr (hvalue ▸ hunits))]
  | true =>
    rw [hsign, ofUnits_true, ← ofUnits_false] at hvalue
    rw [decide_eq_true (lt_of_le_of_ne (by linarith) hp)]

/-- Every number but zero has one pattern. -/
theorem eq_of_datum (hx : x.datum = .number p) (hy : y.datum = .number p) (hp : p ≠ 0) : x = y := by
  rw [← ofMagnitude_self x, ← ofMagnitude_self y, isNegative_eq_decide hx hp,
    isNegative_eq_decide hy hp, magnitude_eq_of_abs_eq hx hy rfl]

/-! ### Operations -/

theorem datum_add (hx : x.datum = .number p) (hy : y.datum = .number q) (h : Fits (p + q)) :
    (x + y).datum = .number (rounded (p + q)) := by
  change (add x y).datum = _
  rw [add, hx, hy]
  exact datum_nearest _ h

theorem datum_neg (hx : x.datum = .number p) : (-x).datum = .number (-p) := by
  obtain ⟨hfinite, hvalue⟩ := datum_eq_number hx
  change (ofMagnitude (!x.isNegative) x.magnitude).datum = _
  rw [datum_ofMagnitude _ hfinite, ← hvalue]
  cases x.isNegative
  · rfl
  · rw [ofUnits_true, neg_neg]
    rfl

theorem datum_sub (hx : x.datum = .number p) (hy : y.datum = .number q) (h : Fits (p - q)) :
    (x - y).datum = .number (rounded (p - q)) := by
  rw [sub_eq_add_neg] at h ⊢
  exact datum_add hx (datum_neg hy) h

theorem datum_mul (hx : x.datum = .number p) (hy : y.datum = .number q) (h : Fits (p * q)) :
    (x * y).datum = .number (rounded (p * q)) := by
  change (mul x y).datum = _
  rw [mul, hx, hy]
  exact datum_nearest _ h

theorem datum_div (hx : x.datum = .number p) (hy : y.datum = .number q) (hq : q ≠ 0)
    (h : Fits (p / q)) : (x / y).datum = .number (rounded (p / q)) := by
  change (div x y).datum = _
  simp only [div, hx, hy, if_neg hq]
  exact datum_nearest _ h

/-! ### Bounds -/

/-- A power of two is what a pattern with no fraction stands for. -/
theorem datum_two_pow {k : Nat} (hk : k < 1024) :
    (ofMagnitude false ((k + 1023) * binade)).datum = .number (2 ^ k) := by
  have hbinade : binade = 2 ^ 52 := rfl
  have hinfinity : infinityMagnitude = 2047 * 2 ^ 52 := rfl
  have hfield : exponentField ((k + 1023) * binade) = k + 1023 :=
    Nat.mul_div_cancel _ (by decide)
  have hunits : units ((k + 1023) * binade) = 2 ^ k * unitsPerOne := by
    have hfraction : (k + 1023) * binade % binade = 0 := Nat.mul_mod_left _ _
    have hspacing : spacing ((k + 1023) * binade) = 2 ^ (k + 1022) := by
      rw [spacing, hfield]
      rfl
    rw [units, hfield, if_neg (by omega), hfraction, hspacing, add_zero, hbinade, unitsPerOne_eq,
      ← pow_add, ← pow_add, show 52 + (k + 1022) = k + 1074 by omega]
  have hfinite : (k + 1023) * binade < infinityMagnitude := by
    rw [hbinade, hinfinity]
    omega
  rw [datum_ofMagnitude _ hfinite, hunits, ofUnits_false, Nat.cast_mul,
    mul_div_cancel_right₀ _ unitsPerOne_pos.ne', Nat.cast_pow, Nat.cast_ofNat]

theorem fits_of_abs_le_two_pow {k : Nat} (hk : k < 1024) (h : |q| ≤ 2 ^ k) : Fits q := by
  refine (rounded_of_datum (datum_two_pow hk)).1.of_abs_le ?_
  rwa [abs_of_pos (by positivity : (0 : Rat) < 2 ^ k)]

theorem abs_rounded_le_two_pow {k : Nat} (hk : k < 1024) (h : |q| ≤ 2 ^ k) :
    |rounded q| ≤ 2 ^ k := by
  have hpower : rounded (2 ^ k) = 2 ^ k := (rounded_of_datum (datum_two_pow hk)).2
  obtain ⟨hlow, hhigh⟩ := abs_le.mp h
  refine abs_le.mpr ⟨?_, ?_⟩
  · calc -2 ^ k = rounded (-2 ^ k) := by rw [rounded_neg, hpower]
      _ ≤ rounded q := rounded_mono hlow
  · calc rounded q ≤ rounded (2 ^ k) := rounded_mono hhigh
      _ = 2 ^ k := hpower

end Hush.Binary64
