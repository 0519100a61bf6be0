import Hush.Proofs.Volume.FullVolume
import Hush.Volume.Transfer

/-!
# The standard curve spans its range

Each of the three lines falls from its knee to the lowest volume, and rounding at every operation
keeps that order. Going down, more lines apply and each is lower, so the lowest of them is lower as
well: the curve has no rise, neither at a knee nor where another line becomes the lowest. Its ends
are the bounds of the range, without any rounding, since knees are whole numbers and floors halves
of whole numbers.
-/
namespace Hush.Volume

open Binary64

/-! ### Lines in rationals -/

/-- A line by whole numbers: its knee, and twice its floor. -/
structure Line where
  knee : Int
  halves : Int

namespace Line

/-- What a line gives at the lowest volume. -/
def floor (t : Line) : Rat := (t.halves : Rat) / 2

theorem floor_double (knee n : Int) : floor ⟨knee, 2 * n⟩ = n := by
  rw [floor, Int.cast_mul]
  exact mul_div_cancel_left₀ _ two_ne_zero

/-- The line's value, each operation rounded. -/
def value (t : Line) (v : Rat) : Rat :=
  rounded (rounded (t.floor * rounded (v - t.knee)) / (-30 - t.knee))

/-- The knee lies on the travel, above its lowest volume, and the line falls from there. -/
structure Falls (t : Line) : Prop where
  knee_gt : -30 < t.knee
  knee_le : t.knee ≤ 0
  halves_le : t.halves ≤ 0
  halves_ge : -2 ^ 43 ≤ t.halves

/-- What a segment stands for. -/
structure Means (t : Line) (s : Segment) : Prop where
  falls : t.Falls
  knee : s.knee.datum = .number t.knee
  floor : s.floor.datum = .number t.floor

variable {t : Line}

theorem Falls.floor_nonpos (h : t.Falls) : t.floor ≤ 0 :=
  div_nonpos_of_nonpos_of_nonneg (by exact_mod_cast h.halves_le) (by norm_num)

theorem Falls.run_neg (h : t.Falls) : (-30 : Rat) - t.knee < 0 := by
  have hknee : (-30 : Rat) < t.knee := by exact_mod_cast h.knee_gt
  linarith

theorem Falls.rounded_run (h : t.Falls) : rounded (-30 - t.knee) = -30 - t.knee := by
  have hgt := h.knee_gt
  have hle := h.knee_le
  have hwhole : |(-30 - t.knee)| < 2 ^ 53 := abs_lt.mpr ⟨by omega, by omega⟩
  simpa using (Kept.of_intCast hwhole).rounded_eq

/-- Less of a volume is less of a line: the way below the knee, the product and the quotient keep
the order or turn it over, and rounding leaves it. -/
theorem Falls.value_mono (h : t.Falls) {u v : Rat} (huv : u ≤ v) : t.value u ≤ t.value v := by
  have hway : rounded (u - t.knee) ≤ rounded (v - t.knee) :=
    rounded_mono (sub_le_sub_right huv _)
  have hproduct : rounded (t.floor * rounded (v - t.knee)) ≤
      rounded (t.floor * rounded (u - t.knee)) :=
    rounded_mono (mul_le_mul_of_nonpos_left hway h.floor_nonpos)
  exact rounded_mono (div_le_div_of_nonpos_of_le h.run_neg.le hproduct)

/-- At the lowest volume a line is at its floor: nothing on the way there needs rounding. -/
theorem Falls.value_lowest (h : t.Falls) : t.value (-30) = t.floor := by
  have hgt := h.knee_gt
  have hle := h.knee_le
  have hhigh := h.halves_le
  have hlow := h.halves_ge
  have hproduct : rounded (t.floor * (-30 - t.knee)) = t.floor * (-30 - t.knee) := by
    have hwhole : |t.halves * (-30 - t.knee)| < 2 ^ 53 := by
      rw [abs_mul]
      calc |t.halves| * |(-30 - t.knee)| ≤ 2 ^ 43 * 30 :=
            mul_le_mul (abs_le.mpr ⟨hlow, by omega⟩) (abs_le.mpr ⟨by omega, by omega⟩)
              (abs_nonneg _) (by norm_num)
        _ < 2 ^ 53 := by norm_num
    have hhalf : t.floor * (-30 - t.knee) = ((t.halves * (-30 - t.knee) : Int) : Rat) / 2 := by
      rw [floor]
      push_cast
      ring
    rw [hhalf, (Kept.of_half hwhole).rounded_eq]
  have hfloor : rounded t.floor = t.floor :=
    (Kept.of_half (abs_lt.mpr ⟨by omega, by omega⟩)).rounded_eq
  rw [value, h.rounded_run, hproduct, mul_div_cancel_right₀ _ h.run_neg.ne, hfloor]

variable {s : Segment} {v : Binary64} {q : Rat}

/-- A segment gives what its line gives. -/
theorem Means.datum_value (h : t.Means s) (hv : v.datum = .number q) (hlow : -30 ≤ q)
    (hhigh : q ≤ 0) : (s.value v).datum = .number (t.value q) := by
  have hgt : (-30 : Rat) < t.knee := by exact_mod_cast h.falls.knee_gt
  have hle : (t.knee : Rat) ≤ 0 := by exact_mod_cast h.falls.knee_le
  have hrun : (lowest - s.knee).datum = .number (-30 - t.knee) := by
    have hrange : |(-30 : Rat) - t.knee| ≤ 2 ^ 5 := abs_le.mpr ⟨by linarith, by linarith⟩
    have hsub := datum_sub datum_lowest h.knee (fits_of_abs_le_two_pow (by decide) hrange)
    rwa [h.falls.rounded_run] at hsub
  have hway : |q - t.knee| ≤ 2 ^ 5 := abs_le.mpr ⟨by linarith, by linarith⟩
  have hfloor : |t.floor| ≤ 2 ^ 42 := by
    have hhalves : (-2 ^ 43 : Rat) ≤ t.halves := by exact_mod_cast h.falls.halves_ge
    refine abs_le.mpr ⟨?_, h.falls.floor_nonpos.trans (by norm_num)⟩
    rw [Line.floor]
    linarith
  have hproduct : |t.floor * rounded (q - t.knee)| ≤ 2 ^ 47 := by
    rw [abs_mul]
    calc |t.floor| * |rounded (q - t.knee)| ≤ 2 ^ 42 * 2 ^ 5 := by
          gcongr
          exact abs_rounded_le_two_pow (by decide) hway
      _ = 2 ^ 47 := by norm_num
  have hquotient : |rounded (t.floor * rounded (q - t.knee)) / (-30 - t.knee)| ≤ 2 ^ 47 := by
    have hrun : (1 : Rat) ≤ |-30 - (t.knee : Rat)| := by
      have hwhole : (-29 : Rat) ≤ t.knee := by exact_mod_cast h.falls.knee_gt
      exact le_abs.mpr (Or.inr (by linarith))
    rw [abs_div]
    calc |rounded (t.floor * rounded (q - t.knee))| / |-30 - (t.knee : Rat)| ≤ 2 ^ 47 / 1 := by
          gcongr
          exact abs_rounded_le_two_pow (by decide) hproduct
      _ = 2 ^ 47 := div_one _
  have hsub := datum_sub hv h.knee (fits_of_abs_le_two_pow (by decide) hway)
  have hmul := datum_mul h.floor hsub (fits_of_abs_le_two_pow (by decide) hproduct)
  exact datum_div hmul hrun h.falls.run_neg.ne (fits_of_abs_le_two_pow (by decide) hquotient)

end Line

/-! ### The lowest line -/

/-- What is set so far, or the value of a line that applies and is lower. -/
def lowered (q setting : Rat) (t : Line) : Rat :=
  if q ≤ t.knee then min setting (t.value q) else setting

theorem lowered_le (q setting : Rat) (t : Line) : lowered q setting t ≤ setting := by
  unfold lowered
  split
  · exact min_le_left _ _
  · exact le_rfl

/-- A line that applies at a volume applies at every lower one, and is lower there. -/
theorem lowered_mono {t : Line} (ht : t.Falls) {p q : Rat} (hpq : p ≤ q) {low high : Rat}
    (h : low ≤ high) : lowered p low t ≤ lowered q high t := by
  by_cases hq : q ≤ t.knee
  · rw [lowered, lowered, if_pos (hpq.trans hq), if_pos hq]
    exact min_le_min h (ht.value_mono hpq)
  · -- The line may apply at `p` only; there it can but lower what is set.
    calc lowered p low t ≤ low := lowered_le p low t
      _ ≤ lowered q high t := by rwa [lowered, if_neg hq]

/-- The lowest of the lines that apply at a volume and of what is set so far. -/
def lowestFrom (q setting : Rat) (lines : List Line) : Rat := lines.foldl (lowered q) setting

theorem lowestFrom_le (q setting : Rat) (lines : List Line) :
    lowestFrom q setting lines ≤ setting := by
  induction lines generalizing setting with
  | nil => exact le_rfl
  | cons t lines ih => exact (ih _).trans (lowered_le q setting t)

theorem lowestFrom_mono {lines : List Line} (hlines : ∀ t ∈ lines, t.Falls) {p q : Rat}
    (hpq : p ≤ q) {low high : Rat} (h : low ≤ high) :
    lowestFrom p low lines ≤ lowestFrom q high lines := by
  induction lines generalizing low high with
  | nil => exact h
  | cons t lines ih =>
    have hfirst := lowered_mono (hlines t List.mem_cons_self) hpq h
    exact ih (fun t ht => hlines t (List.mem_cons_of_mem _ ht)) hfirst

/-- The same choice between patterns. -/
def loweredTo (v setting : Binary64) (line : Segment) : Binary64 :=
  if v ≤ line.knee ∧ line.value v < setting then line.value v else setting

theorem lowestLine_eq_foldl (v : Binary64) (lines : List Segment) :
    lowestLine v lines = lines.foldl (loweredTo v) 0 := rfl

variable {v : Binary64} {q : Rat}

theorem datum_loweredTo (hv : v.datum = .number q) (hlow : -30 ≤ q) (hhigh : q ≤ 0) {t : Line}
    {s : Segment} (h : t.Means s) {setting : Binary64} {r : Rat}
    (hsetting : setting.datum = .number r) :
    (loweredTo v setting s).datum = .number (lowered q r t) := by
  have hvalue := h.datum_value hv hlow hhigh
  have happlies := le_iff hv h.knee
  have hlower := lt_iff hvalue hsetting
  unfold loweredTo lowered
  by_cases hknee : q ≤ t.knee
  · rw [if_pos hknee]
    by_cases hless : t.value q < r
    · rw [if_pos ⟨happlies.mpr hknee, hlower.mpr hless⟩, min_eq_right hless.le, hvalue]
    · rw [if_neg fun both => hless (hlower.mp both.2), min_eq_left (not_lt.mp hless), hsetting]
  · rw [if_neg fun both => hknee (happlies.mp both.1), if_neg hknee, hsetting]

theorem datum_foldl_loweredTo (hv : v.datum = .number q) (hlow : -30 ≤ q) (hhigh : q ≤ 0)
    {lines : List Line} {segments : List Segment} (h : List.Forall₂ Line.Means lines segments)
    {setting : Binary64} {r : Rat} (hsetting : setting.datum = .number r) :
    (segments.foldl (loweredTo v) setting).datum = .number (lowestFrom q r lines) := by
  induction h generalizing setting r with
  | nil => exact hsetting
  | cons hfirst _ ih => exact ih (datum_loweredTo hv hlow hhigh hfirst hsetting)

/-! ### The lines of a device -/

/-- The three lines for a distance of the bounds. -/
def linesFor (range : Int) : List Line :=
  [⟨0, 2 * -(range / 2)⟩, ⟨-5, -(range / 2) - range⟩, ⟨-17, 2 * -range⟩]

variable {range : Int}

theorem falls_of_mem_linesFor (hlow : 0 ≤ range) (hhigh : range ≤ 2 ^ 41) {t : Line}
    (ht : t ∈ linesFor range) : t.Falls := by
  simp only [linesFor, List.mem_cons, List.not_mem_nil, or_false] at ht
  rcases ht with rfl | rfl | rfl <;> constructor <;> dsimp only <;> omega

/-- At the lowest volume the steep line has taken all of the range, and the others no more. -/
theorem lowestFrom_lowest (hlow : 0 ≤ range) (hhigh : range ≤ 2 ^ 41) :
    lowestFrom (-30) 0 (linesFor range) = -range := by
  have hfloor : ∀ t ∈ linesFor range, ∀ setting, lowered (-30) setting t = min setting t.floor := by
    intro t ht setting
    have hfalls := falls_of_mem_linesFor hlow hhigh ht
    have hknee : (-30 : Rat) ≤ t.knee := by exact_mod_cast hfalls.knee_gt.le
    rw [lowered, if_pos hknee, hfalls.value_lowest]
  have hrange : (0 : Rat) ≤ range := by exact_mod_cast hlow
  have hhalf : ((range / 2 : Int) : Rat) ≤ range := by
    exact_mod_cast (by omega : range / 2 ≤ range)
  simp only [linesFor, List.forall_mem_cons] at hfloor
  obtain ⟨hgentle, hmiddle, hsteep, -⟩ := hfloor
  simp only [lowestFrom, linesFor, List.foldl_cons, List.foldl_nil, hgentle, hmiddle, hsteep,
    Line.floor_double]
  rw [Line.floor]
  push_cast
  exact min_eq_right (le_min (le_min (by linarith) (by linarith)) (by linarith))

/-- On the travel the lowest line takes away no more than the range. -/
theorem le_lowestFrom (hlow : 0 ≤ range) (hhigh : range ≤ 2 ^ 41) (hq : -30 ≤ q) :
    -(range : Rat) ≤ lowestFrom q 0 (linesFor range) := by
  rw [← lowestFrom_lowest hlow hhigh]
  exact lowestFrom_mono (fun _ ht => falls_of_mem_linesFor hlow hhigh ht) hq le_rfl

theorem toInt_halved {span : Int64} (hlow : 0 ≤ span.toInt) :
    (-span / 2).toInt = -(span.toInt / 2) := by
  have hhigh := span.toInt_lt
  have hneg : (-span).toInt = -span.toInt := by
    rw [Int64.toInt_neg]
    apply Int.bmod_eq_of_le <;> omega
  have htwo : (2 : Int64).toInt = 2 := rfl
  rw [Int64.toInt_div, hneg, htwo, Int.neg_tdiv, Int.tdiv_eq_ediv_of_nonneg hlow]
  apply Int.bmod_eq_of_le <;> omega

theorem datum_halved {span : Int64} (hlow : 0 ≤ span.toInt) (hhigh : span.toInt ≤ 2 ^ 41) :
    (decibels (-span / 2)).datum = .number (-(span.toInt / 2) : Int) := by
  have htoInt := toInt_halved hlow
  have hexact : |(-span / 2).toInt| < 2 ^ 53 := abs_lt.mpr ⟨by omega, by omega⟩
  rw [← htoInt]
  exact datum_decibels_of_abs_lt hexact

/-- The middle line ends halfway between the ends of the others. -/
theorem datum_middleFloor (hlow : 0 ≤ range) (hhigh : range ≤ 2 ^ 41) {whole gentle : Binary64}
    (hwhole : whole.datum = .number range) (hgentle : gentle.datum = .number (-(range / 2) : Int)) :
    (gentle - (whole + gentle) / 2).datum = .number ((-(range / 2) - range : Int) / 2) := by
  have htwo : (2 : Binary64).datum = .number 2 := datum_numeral (by decide)
  have hsum : (whole + gentle).datum = .number (range - range / 2 : Int) :=
    datum_add_of_whole hwhole hgentle (abs_lt.mpr ⟨by omega, by omega⟩)
  have hquarter : ((whole + gentle) / 2).datum = .number ((range - range / 2 : Int) / 2) :=
    datum_div_of_kept hsum htwo two_ne_zero (.of_half (abs_lt.mpr ⟨by omega, by omega⟩))
  have hexact : ((-(range / 2) : Int) : Rat) - (range - range / 2 : Int) / 2 =
      (-(range / 2) - range : Int) / 2 := by
    push_cast
    ring
  rw [← hexact]
  apply datum_sub_of_kept hgentle hquarter
  rw [hexact]
  exact .of_half (abs_lt.mpr ⟨by omega, by omega⟩)

theorem datum_knees : (0 : Binary64).datum = .number (0 : Int) ∧
    (-5 : Binary64).datum = .number (-5 : Int) ∧ (-17 : Binary64).datum = .number (-17 : Int) :=
  ⟨datum_zero, datum_neg (datum_numeral (by decide)), datum_neg (datum_numeral (by decide))⟩

/-- The segments of a span are the lines of its number. -/
theorem means_segments {span : Int64} (hlow : 0 ≤ span.toInt) (hhigh : span.toInt ≤ 2 ^ 41) :
    List.Forall₂ Line.Means (linesFor span.toInt) (segments span) := by
  have hfalls := fun t ht => falls_of_mem_linesFor (t := t) hlow hhigh ht
  simp only [linesFor, List.forall_mem_cons] at hfalls
  obtain ⟨hgentle, hmiddle, hsteep, -⟩ := hfalls
  obtain ⟨htop, hfive, hseventeen⟩ := datum_knees
  have hrange : (decibels span).datum = .number span.toInt :=
    datum_decibels_of_abs_lt (abs_lt.mpr ⟨by omega, by omega⟩)
  have hhalved := datum_halved hlow hhigh
  -- Half of a range that does not wrap is never below all of it, so the halved floor stands.
  have hnotBelow : ¬ decibels (-span / 2) < -decibels span := by
    rw [lt_iff hhalved (datum_neg hrange)]
    exact_mod_cast (by omega : ¬ -(span.toInt / 2) < -span.toInt)
  simp only [segments, if_neg hnotBelow, linesFor]
  refine .cons ⟨hgentle, htop, ?_⟩
    (.cons ⟨hmiddle, hfive, datum_middleFloor hlow hhigh hrange hhalved⟩
      (.cons ⟨hsteep, hseventeen, ?_⟩ .nil))
  · rw [Line.floor_double]
    exact hhalved
  · rw [Line.floor_double, Int.cast_neg]
    exact datum_neg hrange

/-! ### The curve -/

namespace Moderate

variable {maxDb minDb : Int64}

theorem datum_segmentedValue (h : Moderate maxDb minDb) (hv : v.datum = .number q)
    (hlow : -30 ≤ q) (hhigh : q ≤ 0) :
    (segmentedValue v maxDb minDb).datum =
      .number (rounded (lowestFrom q 0 (linesFor (maxDb.toInt - minDb.toInt)) + maxDb.toInt)) := by
  have hnonneg := h.distance_nonneg
  have hle := h.distance_le
  have hmax := abs_le.mp h.abs_max_le
  have hmeans : List.Forall₂ Line.Means (linesFor (maxDb.toInt - minDb.toInt))
      (segments (maxDb - minDb)) := by
    rw [← h.toInt_sub] at hnonneg hle ⊢
    exact means_segments hnonneg hle
  have hlowest := datum_foldl_loweredTo hv hlow hhigh hmeans datum_zero
  have hsum : |lowestFrom q 0 (linesFor (maxDb.toInt - minDb.toInt)) + maxDb.toInt| ≤ 2 ^ 42 := by
    have hfloor := le_lowestFrom hnonneg hle hlow
    have hceiling := lowestFrom_le q 0 (linesFor (maxDb.toInt - minDb.toInt))
    have hdistance : ((maxDb.toInt - minDb.toInt : Int) : Rat) ≤ 2 ^ 41 := by exact_mod_cast hle
    have hmaxLow : (-2 ^ 40 : Rat) ≤ maxDb.toInt := by exact_mod_cast hmax.1
    have hmaxHigh : (maxDb.toInt : Rat) ≤ 2 ^ 40 := by exact_mod_cast hmax.2
    exact abs_le.mpr ⟨by linarith, by linarith⟩
  exact datum_add hlowest h.datum_max (fits_of_abs_le_two_pow (by decide) hsum)

/-- The whole range below the upper bound is the lower bound. -/
theorem rounded_bottom (h : Moderate maxDb minDb) :
    rounded (-((maxDb.toInt - minDb.toInt : Int) : Rat) + maxDb.toInt) = minDb.toInt := by
  rw [← h.rounded_min]
  congr 1
  push_cast
  ring

/-- On the travel the value of the curve lies in the range and falls with the volume. -/
theorem segmentedValue_mono (h : Moderate maxDb minDb) {u v : Binary64} {p q : Rat}
    (hu : u.datum = .number p) (hv : v.datum = .number q) (hlow : -30 ≤ p) (hpq : p ≤ q)
    (hhigh : q ≤ 0) :
    ∃ a b : Rat, (segmentedValue u maxDb minDb).datum = .number a ∧
      (segmentedValue v maxDb minDb).datum = .number b ∧
      minDb.toInt ≤ a ∧ a ≤ b ∧ b ≤ maxDb.toInt := by
  have hnonneg := h.distance_nonneg
  have hle := h.distance_le
  refine ⟨_, _, h.datum_segmentedValue hu hlow (hpq.trans hhigh),
    h.datum_segmentedValue hv (hlow.trans hpq) hhigh, ?_, ?_, ?_⟩
  · calc (minDb.toInt : Rat)
        = rounded (-((maxDb.toInt - minDb.toInt : Int) : Rat) + maxDb.toInt) :=
          h.rounded_bottom.symm
      _ ≤ _ := rounded_mono (add_le_add_left (le_lowestFrom hnonneg hle hlow) _)
  · have hlines := fun t ht => falls_of_mem_linesFor (t := t) hnonneg hle ht
    exact rounded_mono (add_le_add_left (lowestFrom_mono hlines hpq le_rfl) _)
  · calc rounded (lowestFrom q 0 (linesFor (maxDb.toInt - minDb.toInt)) + maxDb.toInt)
        ≤ rounded maxDb.toInt :=
          rounded_mono (add_le_of_nonpos_left (lowestFrom_le q 0 _))
      _ = maxDb.toInt := h.rounded_max

end Moderate

/-! ### Slopes -/

/-- A line whose knee is a number, and not the lowest volume. -/
structure Slopes (s : Segment) : Prop where
  knee : ∃ k, s.knee.datum = .number k
  run : ¬ Same (lowest - s.knee) 0

theorem transferFrom_eq_ok (hv : v.datum = .number q) {lines : List Segment}
    (hlines : ∀ s ∈ lines, Slopes s) (index : Nat) (setting : Binary64) :
    transferFrom v index setting lines = .ok (lines.foldl (loweredTo v) setting) := by
  induction lines generalizing index setting with
  | nil => rfl
  | cons s lines ih =>
    obtain ⟨⟨k, hknee⟩, hrun⟩ := hlines s List.mem_cons_self
    have hrest := ih (fun s hs => hlines s (List.mem_cons_of_mem _ hs))
    have hbelow := lt_iff hknee hv
    have happlies := le_iff hv hknee
    rw [transferFrom, List.foldl_cons]
    by_cases hk : k < q
    · have hnot : ¬ v ≤ s.knee := fun hle => absurd (happlies.mp hle) (not_le.mpr hk)
      rw [if_pos (hbelow.mpr hk), hrest, loweredTo, if_neg fun both => hnot both.1]
    · have hle : v ≤ s.knee := happlies.mpr (not_lt.mp hk)
      rw [if_neg fun hlt => hk (hbelow.mp hlt), if_neg hrun, hrest, loweredTo]
      simp only [hle, true_and]

example : transfer lowest [⟨-17, -100⟩, ⟨lowest, -100⟩] = .error ⟨1, lowest⟩ := by decide +kernel

theorem slopes_of_mem_segments (span : Int64) : ∀ s ∈ segments span, Slopes s := by
  obtain ⟨htop, hfive, hseventeen⟩ := datum_knees
  simp only [segments, List.forall_mem_cons]
  refine ⟨⟨⟨_, htop⟩, ?_⟩, ⟨⟨_, hfive⟩, ?_⟩, ⟨⟨_, hseventeen⟩, ?_⟩, List.forall_mem_nil _⟩ <;>
    dsimp only <;> decide +kernel

/-- No volume and no bounds lead to a line without a slope. -/
theorem standardReading_eq_ok (raw : Binary64) (maxDb minDb : Int64) :
    standardReading raw maxDb minDb = .ok (segmented.attenuate raw maxDb minDb) := by
  by_cases haudible : lowest ≤ raw ∧ raw ≤ highest
  · obtain ⟨q, hraw, -, -⟩ := datum_of_audible haudible.1 haudible.2
    have hsetting := transferFrom_eq_ok hraw (slopes_of_mem_segments (maxDb - minDb)) 0 0
    rw [← lowestLine_eq_foldl] at hsetting
    unfold standardReading
    rw [attenuate_of_audible segmented haudible.1 haudible.2,
      ofWire_of_audible haudible.1 haudible.2]
    unfold transfer
    dsimp only
    rw [hsetting]
    rfl
  · -- Muted and refused volumes never reach the lines.
    have hnot : ∀ v, Request.ofWire raw ≠ .ok (.audible v) := by
      intro v
      rw [Request.ofWire, if_neg haudible]
      split <;> simp
    unfold standardReading
    split
    case h_1 h => exact absurd h (hnot _)
    case h_2 => rfl
    case h_3 => rfl

/-! ### The curve from end to end -/

/-- The standard curve falls with the volume, from the upper bound at full volume to the lower bound
at the lowest one, and leaves the range nowhere. No line it is made of is without a slope. -/
theorem standard_curve_spans_range {maxDb minDb : Int64} (horder : minDb ≤ maxDb)
    (hmax : |maxDb.toInt| ≤ 2 ^ 40) (hmin : |minDb.toInt| ≤ 2 ^ 40) :
    (∀ u v, lowest ≤ u ∧ u ≤ highest → lowest ≤ v ∧ v ≤ highest → u ≤ v →
      ∃ a b : Rat, (segmented.attenuate u maxDb minDb).attenuation.datum = .number a ∧
        (segmented.attenuate v maxDb minDb).attenuation.datum = .number b ∧
        minDb.toInt ≤ a ∧ a ≤ b ∧ b ≤ maxDb.toInt) ∧
    (∀ v, Same v highest →
      (segmented.attenuate v maxDb minDb).attenuation.datum = .number maxDb.toInt) ∧
    (∀ v, Same v lowest →
      (segmented.attenuate v maxDb minDb).attenuation.datum = .number minDb.toInt) ∧
    ∀ v, standardReading v maxDb minDb = .ok (segmented.attenuate v maxDb minDb) := by
  have hbounds : Moderate maxDb minDb := ⟨horder, hmax, hmin⟩
  refine ⟨?falls, ?full, ?bottom, fun v => standardReading_eq_ok v maxDb minDb⟩
  case falls =>
    rintro u v ⟨hlowu, hhighu⟩ ⟨hlowv, hhighv⟩ huv
    obtain ⟨p, hu, hlow, -⟩ := datum_of_audible hlowu hhighu
    obtain ⟨q, hv, -, hhigh⟩ := datum_of_audible hlowv hhighv
    rw [attenuate_of_audible segmented hlowu hhighu,
      attenuate_of_audible segmented hlowv hhighv]
    exact hbounds.segmentedValue_mono hu hv hlow ((le_iff hu hv).mp huv) hhigh
  case full =>
    intro v hfull
    obtain ⟨negative, rfl⟩ := eq_zero_of_same hfull
    rw [attenuate_zero, ← hbounds.rounded_max]
    exact datum_segmentedValue_zero negative maxDb minDb
  case bottom =>
    intro v hsame
    have hv := datum_of_same hsame datum_lowest
    have hlow : lowest ≤ v := (le_iff datum_lowest hv).mpr le_rfl
    have hhigh : v ≤ highest := (le_iff hv datum_highest).mpr (by norm_num)
    rw [attenuate_of_audible segmented hlow hhigh, ← hbounds.rounded_bottom,
      ← lowestFrom_lowest hbounds.distance_nonneg hbounds.distance_le]
    exact hbounds.datum_segmentedValue hv le_rfl (by norm_num)

/-- A range of odd distance, whose gentle line ends above the middle. -/
theorem standard_curve_spans_odd_range :
    (-5001 : Int64) ≤ 1000 ∧ |(1000 : Int64).toInt| ≤ 2 ^ 40 ∧ |(-5001 : Int64).toInt| ≤ 2 ^ 40 ∧
      (∃ a b : Rat, (segmented.attenuate (-17) 1000 (-5001)).attenuation.datum = .number a ∧
        (segmented.attenuate (-5) 1000 (-5001)).attenuation.datum = .number b ∧
        -5001 ≤ a ∧ a ≤ b ∧ b ≤ 1000) ∧
      (segmented.attenuate (-0) 1000 (-5001)).attenuation.datum = .number 1000 ∧
      (segmented.attenuate (-30) 1000 (-5001)).attenuation.datum = .number (-5001) ∧
      standardReading (-17) 1000 (-5001) = .ok (segmented.attenuate (-17) 1000 (-5001)) := by
  have horder : (-5001 : Int64) ≤ 1000 := by decide
  have hmax : |(1000 : Int64).toInt| ≤ 2 ^ 40 := by decide
  have hmin : |(-5001 : Int64).toInt| ≤ 2 ^ 40 := by decide
  obtain ⟨hfalls, hfull, hbottom, hslopes⟩ := standard_curve_spans_range horder hmax hmin
  refine ⟨horder, hmax, hmin, ?_, hfull (-0) (by decide +kernel), hbottom (-30) (by decide +kernel),
    hslopes (-17)⟩
  exact hfalls (-17) (-5) (by decide +kernel) (by decide +kernel) (by decide +kernel)

end Hush.Volume
