import Hush.Proofs.Binary64.Arithmetic

/-!
# Numbers that need no rounding

A whole number of less than 53 bits, over a power of two, is what a pattern stands for: its units
are a multiple of the spacing of their own binade. So rounding leaves it alone.
-/
namespace Hush.Binary64

/-! ### Whole numbers of a spacing -/

/-- A whole number of a spacing is the number of units of a magnitude. -/
theorem units_mul_add {k c : Nat} (hc : c < 2 ^ 53) (hk : k = 0 ∨ 2 ^ 52 ≤ c) :
    units (k * binade + c) = c * 2 ^ k := by
  have hbinade : binade = 2 ^ 52 := rfl
  by_cases hfull : 2 ^ 52 ≤ c
  · have hfield : exponentField (k * binade + c) = k + 1 := by
      rw [exponentField, hbinade]
      omega
    have hfraction : binade + (k * binade + c) % binade = c := by
      rw [hbinade]
      omega
    rw [units, if_neg (by omega), spacing, hfield, hfraction, Nat.add_sub_cancel]
    rfl
  · obtain rfl : k = 0 := by omega
    have hfield : exponentField (0 * binade + c) = 0 := by
      rw [exponentField, hbinade]
      omega
    rw [units, if_pos hfield, hbinade]
    omega

/-- Units that are a multiple of the spacing of their binade are those of a magnitude. -/
theorem units_gridMagnitude {n : Nat} (h : 2 ^ shift n ∣ n) : units (gridMagnitude n) = n := by
  obtain ⟨c, hc⟩ := h
  have hpos : (0 : Rat) < (2 ^ shift n : Nat) := by positivity
  have hquotient : (n : Rat) / (2 ^ shift n : Nat) = (c : Int) := by
    rw [div_eq_iff hpos.ne', Int.cast_natCast, mul_comm]
    exact_mod_cast hc
  have hlow : c < 2 ^ 53 := by
    have hlt := div_shift_lt n
    rw [hquotient] at hlt
    exact_mod_cast hlt
  have hhigh : shift n = 0 ∨ 2 ^ 52 ≤ c := by
    refine (Nat.eq_zero_or_pos _).imp_right fun hshift => ?_
    have hle := le_div_shift hshift
    rw [hquotient] at hle
    exact_mod_cast hle
  rw [gridMagnitude, hquotient, roundEven_intCast, Int.toNat_natCast, units_mul_add hlow hhigh,
    mul_comm]
  exact hc.symm

theorem shift_natCast_le {c k : Nat} (hc : c < 2 ^ 53) : shift ((c * 2 ^ k : Nat) : Rat) ≤ k := by
  rw [shift_natCast]
  by_cases hzero : c * 2 ^ k = 0
  · simp [hzero]
  · have hlog : (c * 2 ^ k).log2 < 53 + k := by
      rw [Nat.log2_lt hzero, pow_add]
      exact Nat.mul_lt_mul_of_pos_right hc (by positivity)
    omega

/-! ### Rationals -/

theorem fits_natCast_div {c k : Nat} (hc : c < 2 ^ 53) : Fits ((c : Rat) / 2 ^ k) := by
  apply fits_of_abs_le_two_pow (k := 53) (by decide)
  rw [abs_of_nonneg (by positivity)]
  calc (c : Rat) / 2 ^ k ≤ c / 1 := by
        gcongr
        exact one_le_pow₀ (by norm_num)
    _ ≤ 2 ^ 53 := by
      rw [div_one]
      exact_mod_cast hc.le

theorem rounded_natCast_div {c k : Nat} (hc : c < 2 ^ 53) (hk : k ≤ 1074) :
    rounded ((c : Rat) / 2 ^ k) = (c : Rat) / 2 ^ k := by
  have hnonneg : (0 : Rat) ≤ c / 2 ^ k := by positivity
  have hunits : (c : Rat) / 2 ^ k * unitsPerOne = (c * 2 ^ (1074 - k) : Nat) := by
    have hsplit : (2 : Rat) ^ 1074 = 2 ^ (1074 - k) * 2 ^ k := by
      rw [← pow_add, Nat.sub_add_cancel hk]
    rw [unitsPerOne_eq, Nat.cast_pow, Nat.cast_ofNat, hsplit]
    push_cast
    field_simp
  have hfits := fits_natCast_div (k := k) hc
  -- The largest magnitude cuts nothing off here.
  have hgrid : nearestMagnitude ((c : Rat) / 2 ^ k) = gridMagnitude (c * 2 ^ (1074 - k) : Nat) := by
    rw [Fits, abs_of_nonneg hnonneg, nearestMagnitude_eq, hunits] at hfits
    rw [nearestMagnitude_eq, hunits]
    omega
  have hspacing : 2 ^ shift ((c * 2 ^ (1074 - k) : Nat) : Rat) ∣ c * 2 ^ (1074 - k) :=
    (pow_dvd_pow 2 (shift_natCast_le hc)).trans (Nat.dvd_mul_left _ _)
  rw [rounded_of_nonneg hnonneg, hgrid, units_gridMagnitude hspacing, ofUnits_false, ← hunits,
    mul_div_cancel_right₀ _ unitsPerOne_pos.ne']

/-- A rational that rounding leaves alone. -/
structure Kept (q : Rat) : Prop where
  fits : Fits q
  rounded_eq : rounded q = q

theorem Kept.of_natCast_div {c k : Nat} (hc : c < 2 ^ 53) (hk : k ≤ 1074) :
    Kept ((c : Rat) / 2 ^ k) := ⟨fits_natCast_div hc, rounded_natCast_div hc hk⟩

theorem Kept.neg {q : Rat} (h : Kept q) : Kept (-q) :=
  ⟨h.fits.of_abs_le (abs_neg q).le, by rw [rounded_neg, h.rounded_eq]⟩

/-- A whole number of less than 53 bits over a power of two is left alone. -/
theorem Kept.of_intCast_div {c : Int} {k : Nat} (hc : |c| < 2 ^ 53) (hk : k ≤ 1074) :
    Kept ((c : Rat) / 2 ^ k) := by
  obtain ⟨n, rfl | rfl⟩ := c.eq_nat_or_neg
  · rw [Int.cast_natCast]
    exact .of_natCast_div (by simpa using hc) hk
  · have hn : n < 2 ^ 53 := by simpa using hc
    rw [Int.cast_neg, Int.cast_natCast, neg_div]
    exact (Kept.of_natCast_div hn hk).neg

theorem Kept.of_half {c : Int} (hc : |c| < 2 ^ 53) : Kept ((c : Rat) / 2) := by
  have hhalf := Kept.of_intCast_div hc (k := 1) (by decide)
  rwa [pow_one] at hhalf

theorem Kept.of_intCast {c : Int} (hc : |c| < 2 ^ 53) : Kept (c : Rat) := by
  have hwhole := Kept.of_intCast_div hc (Nat.zero_le 1074)
  rwa [pow_zero, div_one] at hwhole

/-! ### Exact operations -/

variable {x y : Binary64} {p q : Rat}

theorem datum_add_of_kept (hx : x.datum = .number p) (hy : y.datum = .number q)
    (h : Kept (p + q)) : (x + y).datum = .number (p + q) := by
  rw [datum_add hx hy h.fits, h.rounded_eq]

theorem datum_sub_of_kept (hx : x.datum = .number p) (hy : y.datum = .number q)
    (h : Kept (p - q)) : (x - y).datum = .number (p - q) := by
  rw [datum_sub hx hy h.fits, h.rounded_eq]

theorem datum_mul_of_kept (hx : x.datum = .number p) (hy : y.datum = .number q)
    (h : Kept (p * q)) : (x * y).datum = .number (p * q) := by
  rw [datum_mul hx hy h.fits, h.rounded_eq]

theorem datum_div_of_kept (hx : x.datum = .number p) (hy : y.datum = .number q) (hq : q ≠ 0)
    (h : Kept (p / q)) : (x / y).datum = .number (p / q) := by
  rw [datum_div hx hy hq h.fits, h.rounded_eq]

/-! ### Whole numbers -/

variable {m n : Int}

theorem datum_ofInt (h : |n| < 2 ^ 53) : (ofInt n).datum = .number n := by
  rw [ofInt, datum_nearest _ (Kept.of_intCast h).fits, (Kept.of_intCast h).rounded_eq]

/-- A numeral stands for the number that it reads. -/
theorem datum_numeral {k : Nat} (h : k < 2 ^ 53) :
    (OfNat.ofNat k : Binary64).datum = .number (OfNat.ofNat k) :=
  datum_ofInt (n := k) (by simpa using h)

theorem datum_add_of_whole (hx : x.datum = .number m) (hy : y.datum = .number n)
    (h : |m + n| < 2 ^ 53) : (x + y).datum = .number (m + n : Int) := by
  have hkept := Kept.of_intCast h
  rw [Int.cast_add] at hkept ⊢
  exact datum_add_of_kept hx hy hkept

theorem datum_sub_of_whole (hx : x.datum = .number m) (hy : y.datum = .number n)
    (h : |m - n| < 2 ^ 53) : (x - y).datum = .number (m - n : Int) := by
  have hkept := Kept.of_intCast h
  rw [Int.cast_sub] at hkept ⊢
  exact datum_sub_of_kept hx hy hkept

theorem datum_mul_of_whole (hx : x.datum = .number m) (hy : y.datum = .number n)
    (h : |m * n| < 2 ^ 53) : (x * y).datum = .number (m * n : Int) := by
  have hkept := Kept.of_intCast h
  rw [Int.cast_mul] at hkept ⊢
  exact datum_mul_of_kept hx hy hkept

/-- A product divided by one of its factors is the other. -/
theorem datum_div_of_whole (hx : x.datum = .number (m * n : Int)) (hy : y.datum = .number n)
    (hn : n ≠ 0) (h : |m| < 2 ^ 53) : (x / y).datum = .number m := by
  have hn' : (n : Rat) ≠ 0 := by exact_mod_cast hn
  have hback : ((m * n : Int) : Rat) / n = m := by
    rw [Int.cast_mul, mul_div_cancel_right₀ _ hn']
  rw [← hback]
  apply datum_div_of_kept hx hy hn'
  rw [hback]
  exact .of_intCast h

end Hush.Binary64
