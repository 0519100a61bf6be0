import Hush.Proofs.Binary64.Arithmetic
import Mathlib.Order.WithBot

/-!
# Order of results

Numbers and infinities are in one line. Rounding keeps that order, also of what it takes to an
infinity, so a sum with a number on one side, a product with a positive number and a quotient by one
keep it too. Bounds on what goes into an operation are bounds on what comes out, whether or not the
exact result fits.
-/
namespace Hush.Binary64

variable {x y z a b : Binary64} {p q r : Rat}

/-! ### Numbers and infinities -/

/-- The pattern is a number or an infinity. -/
def Ordered (x : Binary64) : Prop := x.datum ≠ .nan

theorem Ordered.of_number (hx : x.datum = .number p) : x.Ordered := by
  rw [Ordered, hx]
  nofun

theorem Ordered.of_infinite {negative : Bool} (hx : x.datum = .infinite negative) :
    x.Ordered := by
  rw [Ordered, hx]
  nofun

/-- Where a number or an infinity is in their order. -/
def Datum.height : Datum → WithBot (WithTop Rat)
  | .number q => ((q : WithTop Rat) : WithBot (WithTop Rat))
  | .infinite negative => if negative then ⊥ else ⊤
  | .nan => ⊥

/-- Where a pattern is in that order. -/
def height (x : Binary64) : WithBot (WithTop Rat) := x.datum.height

theorem lt_and_same_iff_height (hx : x.Ordered) (hy : y.Ordered) :
    (x < y ↔ x.height < y.height) ∧ (Same x y ↔ x.height = y.height) := by
  change (Below x y ↔ _) ∧ _
  unfold Below Same height
  have htop : ∀ q : Rat, ((q : WithTop Rat) : WithBot (WithTop Rat)) < ⊤ := fun q =>
    WithBot.coe_lt_coe.mpr (WithTop.coe_lt_top q)
  cases hdx : x.datum with
  | nan => exact absurd hdx hx
  | number p =>
    cases hdy : y.datum with
    | nan => exact absurd hdy hy
    | number q => simp [Datum.height]
    | infinite t => cases t <;> simp [Datum.height, htop p, (htop p).ne]
  | infinite s =>
    cases hdy : y.datum with
    | nan => exact absurd hdy hy
    | number q => cases s <;> simp [Datum.height, (htop q).ne']
    | infinite t => cases s <;> cases t <;> simp [Datum.height]

theorem lt_iff_height (hx : x.Ordered) (hy : y.Ordered) : x < y ↔ x.height < y.height :=
  (lt_and_same_iff_height hx hy).1

theorem le_iff_height (hx : x.Ordered) (hy : y.Ordered) : x ≤ y ↔ x.height ≤ y.height := by
  obtain ⟨hlt, hsame⟩ := lt_and_same_iff_height hx hy
  change x < y ∨ Same x y ↔ _
  rw [hlt, hsame, le_iff_lt_or_eq]

theorem ordered_of_le (h : x ≤ y) : x.Ordered ∧ y.Ordered := by
  change Below x y ∨ Same x y at h
  constructor <;> intro hnan <;> simp [Below, Same, hnan] at h

theorem Ordered.le_refl (hx : x.Ordered) : x ≤ x := (le_iff_height hx hx).mpr le_rfl

theorem trans_le (hxy : x ≤ y) (hyz : y ≤ z) : x ≤ z := by
  obtain ⟨hx, hy⟩ := ordered_of_le hxy
  obtain ⟨-, hz⟩ := ordered_of_le hyz
  rw [le_iff_height hx hy] at hxy
  rw [le_iff_height hy hz] at hyz
  exact (le_iff_height hx hz).mpr (hxy.trans hyz)

theorem le_of_not_lt (hx : x.Ordered) (hy : y.Ordered) (h : ¬ x < y) : y ≤ x := by
  rw [lt_iff_height hx hy, not_lt] at h
  exact (le_iff_height hy hx).mpr h

theorem bottom_le (hx : x.datum = .infinite true) (hy : y.Ordered) : x ≤ y := by
  rw [le_iff_height (.of_infinite hx) hy, height, hx]
  exact bot_le

theorem le_ceiling (hx : x.Ordered) (hy : y.datum = .infinite false) : x ≤ y := by
  have htop : y.height = ⊤ := by
    rw [height, hy]
    rfl
  rw [le_iff_height hx (.of_infinite hy), htop]
  exact le_top

/-- Patterns in order are numbers in order, or one of them is the infinity at its end. -/
theorem le_cases (h : x ≤ y) :
    (∃ p q, x.datum = .number p ∧ y.datum = .number q ∧ p ≤ q) ∨
      x.datum = .infinite true ∨ y.datum = .infinite false := by
  obtain ⟨hx, hy⟩ := ordered_of_le h
  have hheight := (le_iff_height hx hy).mp h
  unfold height at hheight
  cases hdx : x.datum with
  | nan => exact absurd hdx hx
  | number p =>
    cases hdy : y.datum with
    | nan => exact absurd hdy hy
    | number q => exact Or.inl ⟨p, q, rfl, rfl, (le_iff hdx hdy).mp h⟩
    | infinite t => cases t <;> simp [hdx, hdy, Datum.height] at hheight ⊢
  | infinite s =>
    cases hdy : y.datum with
    | nan => exact absurd hdy hy
    | number q => cases s <;> simp [hdx, hdy, Datum.height] at hheight ⊢
    | infinite t => cases s <;> cases t <;> simp [hdx, hdy, Datum.height] at hheight ⊢

/-! ### Rounding -/

theorem datum_infinity (negative : Bool) : (infinity negative).datum = .infinite negative := by
  cases negative <;> decide +kernel

theorem nearest_of_not_fits (zeroNegative : Bool) (h : ¬ Fits q) :
    nearest zeroNegative q = infinity (decide (q < 0)) := by
  have hmagnitude : nearestMagnitude |q| = infinityMagnitude :=
    (min_le_right _ _).antisymm (not_lt.mp h)
  rcases lt_trichotomy q 0 with hneg | rfl | hpos
  · rw [abs_of_neg hneg] at hmagnitude
    rw [nearest, if_neg hneg.ne, if_pos hneg, hmagnitude, decide_eq_true hneg, infinity]
  · exact absurd (fits_of_abs_le_two_pow (k := 0) (by decide) (by norm_num)) h
  · rw [abs_of_pos hpos] at hmagnitude
    rw [nearest, if_neg hpos.ne', if_neg hpos.not_gt, hmagnitude, decide_eq_false hpos.not_gt,
      infinity]

theorem ordered_nearest (zeroNegative : Bool) (q : Rat) : (nearest zeroNegative q).Ordered := by
  by_cases h : Fits q
  · exact .of_number (datum_nearest zeroNegative h)
  · rw [nearest_of_not_fits zeroNegative h]
    exact .of_infinite (datum_infinity _)

/-- Rounding keeps the order, also of what it takes to an infinity. -/
theorem nearest_mono (s t : Bool) (h : p ≤ q) : nearest s p ≤ nearest t q := by
  by_cases hp : Fits p
  · by_cases hq : Fits q
    · exact (le_iff (datum_nearest s hp) (datum_nearest t hq)).mpr (rounded_mono h)
    · -- Below zero the lower of the two would be even further away.
      have hnonneg : ¬ q < 0 := fun hneg =>
        hq (hp.of_abs_le (by rw [abs_of_neg hneg, abs_of_neg (h.trans_lt hneg)]; linarith))
      rw [nearest_of_not_fits t hq, decide_eq_false hnonneg]
      exact le_ceiling (ordered_nearest s p) (datum_infinity false)
  · rw [nearest_of_not_fits s hp]
    by_cases hneg : p < 0
    · rw [decide_eq_true hneg]
      exact bottom_le (datum_infinity true) (ordered_nearest t q)
    · have hp0 : 0 ≤ p := not_lt.mp hneg
      have hq : ¬ Fits q := fun hq =>
        hp (hq.of_abs_le (by rwa [abs_of_nonneg hp0, abs_of_nonneg (hp0.trans h)]))
      rw [nearest_of_not_fits t hq, decide_eq_false hneg, decide_eq_false (by linarith)]
      exact (Ordered.of_infinite (datum_infinity false)).le_refl

/-! ### Operations on numbers -/

theorem add_le_add_of_datum {x' y' : Binary64} {p' q' : Rat} (hx : x.datum = .number p)
    (hy : y.datum = .number q) (hx' : x'.datum = .number p') (hy' : y'.datum = .number q')
    (h : p + q ≤ p' + q') : x + y ≤ x' + y' := by
  change add x y ≤ add x' y'
  rw [add, add, hx, hy, hx', hy']
  exact nearest_mono _ _ h

theorem mul_le_mul_of_datum (ha : a.datum = .number r) (hx : x.datum = .number p)
    (hy : y.datum = .number q) (h : r * p ≤ r * q) : a * x ≤ a * y := by
  change mul a x ≤ mul a y
  rw [mul, mul, ha, hx, hy]
  exact nearest_mono _ _ h

theorem div_le_div_of_datum (hx : x.datum = .number p) (hy : y.datum = .number q)
    (hb : b.datum = .number r) (hr : r ≠ 0) (h : p / r ≤ q / r) : x / b ≤ y / b := by
  change div x b ≤ div y b
  simp only [div, hx, hy, hb, if_neg hr]
  exact nearest_mono _ _ h

/-! ### Operations on numbers and infinities -/

/-- What keeps the order of numbers and leaves infinities where they are keeps all of the order. -/
theorem mono_of_numbers {f : Binary64 → Binary64}
    (hnumbers : ∀ {x y p q}, x.datum = .number p → y.datum = .number q → p ≤ q → f x ≤ f y)
    (hinfinite : ∀ {x negative}, x.datum = .infinite negative → (f x).datum = .infinite negative)
    (h : x ≤ y) : f x ≤ f y := by
  have hordered : ∀ {z : Binary64}, z.Ordered → (f z).Ordered := by
    intro z hz
    cases hdatum : z.datum with
    | number r => exact (ordered_of_le (hnumbers hdatum hdatum le_rfl)).1
    | infinite negative => exact .of_infinite (hinfinite hdatum)
    | nan => exact absurd hdatum hz
  obtain ⟨hx, hy⟩ := ordered_of_le h
  rcases le_cases h with ⟨p, q, hp, hq, hpq⟩ | hbottom | htop
  · exact hnumbers hp hq hpq
  · exact bottom_le (hinfinite hbottom) (hordered hy)
  · exact le_ceiling (hordered hx) (hinfinite htop)

theorem isNegative_of_pos (ha : a.datum = .number r) (hr : 0 < r) : a.isNegative = false := by
  rw [isNegative_eq_decide ha hr.ne', decide_eq_false hr.not_gt]

theorem isNegative_of_infinite {negative : Bool} (hx : x.datum = .infinite negative) :
    x.isNegative = negative := by
  unfold datum at hx
  split_ifs at hx
  exact Datum.infinite.inj hx

theorem number_add_mono (ha : a.datum = .number r) (h : x ≤ y) : a + x ≤ a + y := by
  refine mono_of_numbers (f := (a + ·)) ?_ ?_ h
  · intro x y p q hx hy hpq
    exact add_le_add_of_datum ha hx ha hy (by linarith)
  · intro x negative hx
    change (add a x).datum = _
    rw [add, ha, hx]
    exact datum_infinity negative

theorem add_number_mono (ha : a.datum = .number r) (h : x ≤ y) : x + a ≤ y + a := by
  refine mono_of_numbers (f := (· + a)) ?_ ?_ h
  · intro x y p q hx hy hpq
    exact add_le_add_of_datum hx ha hy ha (by linarith)
  · intro x negative hx
    change (add x a).datum = _
    rw [add, ha, hx]
    exact datum_infinity negative

theorem number_mul_mono (ha : a.datum = .number r) (hr : 0 < r) (h : x ≤ y) : a * x ≤ a * y := by
  refine mono_of_numbers (f := (a * ·)) ?_ ?_ h
  · intro x y p q hx hy hpq
    exact mul_le_mul_of_datum ha hx hy (mul_le_mul_of_nonneg_left hpq hr.le)
  · intro x negative hx
    change (mul a x).datum = _
    simp only [mul, ha, hx, if_neg hr.ne', isNegative_of_pos ha hr, isNegative_of_infinite hx,
      Bool.false_bne]
    exact datum_infinity negative

theorem div_number_mono (hb : b.datum = .number r) (hr : 0 < r) (h : x ≤ y) : x / b ≤ y / b := by
  refine mono_of_numbers (f := (· / b)) ?_ ?_ h
  · intro x y p q hx hy hpq
    exact div_le_div_of_datum hx hy hb hr.ne' (div_le_div_of_nonneg_right hpq hr.le)
  · intro x negative hx
    change (div x b).datum = _
    simp only [div, hx, hb, isNegative_of_pos hb hr, isNegative_of_infinite hx, Bool.bne_false]
    exact datum_infinity negative

end Hush.Binary64
