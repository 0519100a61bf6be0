import Hush.Proofs.Binary64.Logarithm
import Hush.Proofs.Volume.Bounds

/-!
# The tapered curve is the louder of two lines

Of the logarithm nothing is used but that it rises and is zero at one. The part of the travel that a
volume leaves rises with the volume, and so do the taper and the straight line over it, rounded as
they are; the louder of two rising lines rises. The taper may fall below all numbers, but the
straight line is then the louder one. Both are at the upper bound at full volume, so the cut at the
upper bound takes nothing away.
-/
namespace Hush.Volume

open Binary64

-- These are closed to reduction: an order between patterns reduces to their data, and for a sum that
-- would run its arithmetic.

/-- How much of the travel is below a volume. -/
@[irreducible]
def fraction (v : Binary64) : Binary64 := 1 - v / lowest

@[irreducible]
def straightLine (maxDb minDb : Int64) (v : Binary64) : Binary64 :=
  decibels minDb + (decibels maxDb - decibels minDb) * fraction v

/-- Ten decibels less for each halving of the fraction. -/
@[irreducible]
def taperLine (log2 : Binary64 → Binary64) (maxDb : Int64) (v : Binary64) : Binary64 :=
  decibels maxDb + dbPerHalving * log2 (fraction v)

theorem taperedReading_eq (log2 : Binary64 → Binary64) (v : Binary64) (maxDb minDb : Int64) :
    taperedReading log2 v maxDb minDb =
      if fraction v ≤ 0 then ⟨decibels minDb, []⟩
      else if taperLine log2 maxDb v < straightLine maxDb minDb v then
        ⟨straightLine maxDb minDb v, [flatInstead (straightLine maxDb minDb v) v
          (taperLine log2 maxDb v) (decibels maxDb) (decibels minDb)]⟩
      else ⟨(taperLine log2 maxDb v).smaller (decibels maxDb), []⟩ := by
  unfold straightLine taperLine fraction
  rfl

theorem audible_taperedWith (log2 : Binary64 → Binary64) :
    (taperedWith log2).audible = taperedReading log2 := by rw [taperedWith]

variable {log2 : Binary64 → Binary64} {u v : Binary64} {maxDb minDb : Int64} {q : Rat}

/-! ### The fraction -/

theorem datum_one : (1 : Binary64).datum = .number 1 := datum_numeral (by decide)

/-- On the travel the quotient is the exact one, rounded. -/
theorem datum_quotient (hv : v.datum = .number q) (hlow : -30 ≤ q) (hhigh : q ≤ 0) :
    (v / lowest).datum = .number (rounded (q / -30)) := by
  have hbound : |q / -30| ≤ 2 ^ 0 := abs_le.mpr ⟨by linarith, by linarith⟩
  exact datum_div hv datum_lowest (by norm_num) (fits_of_abs_le_two_pow (by decide) hbound)

theorem fraction_mono (hlow : lowest ≤ u) (huv : u ≤ v) (hhigh : v ≤ highest) :
    fraction u ≤ fraction v := by
  obtain ⟨p, hu, hp, -⟩ := datum_of_audible hlow (trans_le huv hhigh)
  obtain ⟨q, hv, -, hq⟩ := datum_of_audible (trans_le hlow huv) hhigh
  have hpq : p ≤ q := (le_iff hu hv).mp huv
  have hquotients : rounded (q / -30) ≤ rounded (p / -30) := rounded_mono (by linarith)
  unfold fraction
  exact add_le_add_of_datum datum_one (datum_neg (datum_quotient hu hp (hpq.trans hq))) datum_one
    (datum_neg (datum_quotient hv (hp.trans hpq) hq)) (by linarith)

/-- All of the travel below full volume, or none of it, is taken away exactly. -/
theorem datum_fraction_of_whole {n : Int} (hv : v.datum = .number (n * -30 : Int))
    (hlow : 0 ≤ n) (hhigh : n ≤ 1) : (fraction v).datum = .number (1 - n : Int) := by
  have hquotient := datum_div_of_whole hv datum_lowest (by decide)
    (abs_lt.mpr ⟨by omega, by omega⟩)
  unfold fraction
  exact datum_sub_of_whole datum_one hquotient (abs_lt.mpr ⟨by omega, by omega⟩)

theorem datum_fraction_lowest (hv : v.datum = .number (-30)) : (fraction v).datum = .number 0 :=
  datum_fraction_of_whole (n := 1) hv (by decide) le_rfl

theorem datum_fraction_highest (hv : v.datum = .number 0) : (fraction v).datum = .number 1 :=
  datum_fraction_of_whole (n := 0) hv le_rfl (by decide)

theorem datum_fraction (hlow : lowest ≤ v) (hhigh : v ≤ highest) :
    ∃ t : Rat, (fraction v).datum = .number t ∧ 0 ≤ t ∧ t ≤ 1 :=
  datum_of_le_of_le (datum_fraction_lowest datum_lowest) (datum_fraction_highest datum_highest)
    (fraction_mono (ordered_of_le hlow).1.le_refl hlow hhigh)
    (fraction_mono hlow hhigh (ordered_of_le hhigh).2.le_refl)

/-! ### The straight line -/

namespace Moderate

theorem datum_max_sub_min (h : Moderate maxDb minDb) :
    (decibels maxDb - decibels minDb).datum = .number (maxDb.toInt - minDb.toInt : Int) := by
  have hnonneg := h.distance_nonneg
  have hle := h.distance_le
  exact datum_sub_of_whole h.datum_max h.datum_min (abs_lt.mpr ⟨by omega, by omega⟩)

theorem straightLine_mono (h : Moderate maxDb minDb) (hlow : lowest ≤ u) (huv : u ≤ v)
    (hhigh : v ≤ highest) : straightLine maxDb minDb u ≤ straightLine maxDb minDb v := by
  have hdistance : (0 : Rat) ≤ (maxDb.toInt - minDb.toInt : Int) := by
    exact_mod_cast h.distance_nonneg
  obtain ⟨s, hs, -, -⟩ := datum_fraction hlow (trans_le huv hhigh)
  obtain ⟨t, ht, -, -⟩ := datum_fraction (trans_le hlow huv) hhigh
  have hst : s ≤ t := (le_iff hs ht).mp (fraction_mono hlow huv hhigh)
  unfold straightLine
  exact number_add_mono h.datum_min
    (mul_le_mul_of_datum h.datum_max_sub_min hs ht (mul_le_mul_of_nonneg_left hst hdistance))

theorem datum_straightLine (h : Moderate maxDb minDb) {whole : Int}
    (hwhole : (fraction v).datum = .number whole) (hlow : 0 ≤ whole) (hhigh : whole ≤ 1) :
    (straightLine maxDb minDb v).datum =
      .number (minDb.toInt + (maxDb.toInt - minDb.toInt) * whole : Int) := by
  have hnonneg := h.distance_nonneg
  have hle := h.distance_le
  have hmin := abs_le.mp h.abs_min_le
  have hproduct : |(maxDb.toInt - minDb.toInt) * whole| ≤ 2 ^ 41 := by
    rw [abs_of_nonneg (mul_nonneg hnonneg hlow)]
    nlinarith
  have hrise : ((decibels maxDb - decibels minDb) * fraction v).datum =
      .number ((maxDb.toInt - minDb.toInt) * whole : Int) :=
    datum_mul_of_whole h.datum_max_sub_min hwhole (hproduct.trans_lt (by norm_num))
  obtain ⟨hproductLow, hproductHigh⟩ := abs_le.mp hproduct
  unfold straightLine
  exact datum_add_of_whole h.datum_min hrise (abs_lt.mpr ⟨by omega, by omega⟩)

theorem datum_straightLine_lowest (h : Moderate maxDb minDb) (hv : v.datum = .number (-30)) :
    (straightLine maxDb minDb v).datum = .number minDb.toInt := by
  have hzero : (fraction v).datum = .number (0 : Int) := datum_fraction_lowest hv
  have hvalue := h.datum_straightLine hzero le_rfl zero_le_one
  rwa [mul_zero, add_zero] at hvalue

theorem datum_straightLine_highest (h : Moderate maxDb minDb) (hv : v.datum = .number 0) :
    (straightLine maxDb minDb v).datum = .number maxDb.toInt := by
  have hone : (fraction v).datum = .number (1 : Int) := by
    rw [Int.cast_one]
    exact datum_fraction_highest hv
  have hvalue := h.datum_straightLine hone zero_le_one le_rfl
  rwa [mul_one, add_sub_cancel] at hvalue

end Moderate

/-! ### The taper -/

theorem datum_dbPerHalving : dbPerHalving.datum = .number 1000 := datum_numeral (by decide)

theorem taperLine_mono (hlog : Logarithmic log2) (hpos : 0 < fraction u) (hlow : lowest ≤ u)
    (huv : u ≤ v) (hhigh : v ≤ highest) : taperLine log2 maxDb u ≤ taperLine log2 maxDb v := by
  have hlogs : log2 (fraction u) ≤ log2 (fraction v) :=
    hlog.mono hpos (fraction_mono hlow huv hhigh)
  have hlosses : dbPerHalving * log2 (fraction u) ≤ dbPerHalving * log2 (fraction v) :=
    number_mul_mono datum_dbPerHalving (by norm_num) hlogs
  unfold taperLine
  exact number_add_mono (datum_decibels maxDb) hlosses

/-- At full volume the logarithm is zero, and it is no larger below. -/
theorem taperLine_le (hlog : Logarithmic log2) (hpos : 0 < fraction v) (hlow : lowest ≤ v)
    (hhigh : v ≤ highest) : taperLine log2 maxDb v ≤ decibels maxDb := by
  obtain ⟨t, ht, -, hone⟩ := datum_fraction hlow hhigh
  have hbelow : log2 (fraction v) ≤ log2 1 := hlog.mono hpos ((le_iff ht datum_one).mpr hone)
  have hloss : (dbPerHalving * log2 1).datum = .number 0 :=
    datum_mul_of_whole (m := 1000) (n := 0) datum_dbPerHalving (datum_of_same hlog.one datum_zero)
      (by decide)
  have hfull : (decibels maxDb + dbPerHalving * log2 1).datum = .number (rounded maxDb.toInt) := by
    obtain ⟨hfits, hround⟩ := rounded_of_datum (datum_decibels maxDb)
    have hsum := datum_add (datum_decibels maxDb) hloss (by rwa [add_zero])
    rwa [add_zero, hround] at hsum
  have hlosses : dbPerHalving * log2 (fraction v) ≤ dbPerHalving * log2 1 :=
    number_mul_mono datum_dbPerHalving (by norm_num) hbelow
  have hsums : taperLine log2 maxDb v ≤ decibels maxDb + dbPerHalving * log2 1 := by
    unfold taperLine
    exact number_add_mono (datum_decibels maxDb) hlosses
  exact trans_le hsums ((le_iff hfull (datum_decibels maxDb)).mpr le_rfl)

/-- The pattern of zero and what makes zero with it give that pattern again, not the negative one. -/
theorem zero_add_eq_zero {x : Binary64} (h : (0 + x).datum = .number 0) : 0 + x = 0 := by
  change (add 0 x).datum = _ at h
  change add 0 x = 0
  have hsign : isNegative 0 = false := by decide +kernel
  rw [add, datum_zero, hsign] at h ⊢
  cases hx : x.datum with
  | nan =>
    have hnan : nan.datum = .nan := by decide +kernel
    simp only [hx, hnan, reduceCtorEq] at h
  | infinite negative => simp only [hx, datum_infinity, reduceCtorEq] at h
  | number q =>
    obtain ⟨hfits, hround⟩ := rounded_of_datum hx
    simp only [hx, zero_add, Bool.false_and, datum_nearest _ hfits, hround] at h ⊢
    rw [Datum.number.inj h]
    rfl

/-- The cut at the upper bound takes nothing away. -/
theorem Moderate.taperLine_smaller (h : Moderate maxDb minDb) (hlog : Logarithmic log2)
    (hpos : 0 < fraction v) (hlow : lowest ≤ v) (hhigh : v ≤ highest) :
    (taperLine log2 maxDb v).smaller (decibels maxDb) = taperLine log2 maxDb v := by
  have hle : taperLine log2 maxDb v ≤ decibels maxDb := taperLine_le hlog hpos hlow hhigh
  unfold smaller
  split
  case isTrue => rfl
  case isFalse hnot =>
    have htaper := datum_of_same (hle.resolve_left hnot) h.datum_max
    by_cases hzero : maxDb.toInt = 0
    · obtain rfl : maxDb = 0 := Int64.toInt_inj.mp hzero
      have hdecibels : decibels 0 = 0 := rfl
      unfold taperLine at htaper ⊢
      rw [hdecibels] at htaper ⊢
      exact (zero_add_eq_zero htaper).symm
    · exact eq_of_datum h.datum_max htaper (by exact_mod_cast hzero)

/-! ### The louder line -/

theorem fraction_pos (hlow : lowest ≤ v) (hhigh : v ≤ highest) (h : ¬ fraction v ≤ 0) :
    0 < fraction v := by
  obtain ⟨t, ht, -, -⟩ := datum_fraction hlow hhigh
  rw [le_iff ht datum_zero, not_le] at h
  exact (lt_iff datum_zero ht).mpr h

namespace Moderate

/-- Above the lowest volume the attenuation is the louder line, and a report is made where that is
the straight one. -/
theorem taperedReading_louder (h : Moderate maxDb minDb) (hlog : Logarithmic log2)
    (hlow : lowest ≤ v) (hhigh : v ≤ highest) (hpos : ¬ fraction v ≤ 0) :
    let reading := taperedReading log2 v maxDb minDb
    let straight := straightLine maxDb minDb v
    let taper := taperLine log2 maxDb v
    IsGreatest {straight, taper} reading.attenuation ∧
      reading.events = if taper < straight then
        [flatInstead straight v taper (decibels maxDb) (decibels minDb)] else [] := by
  intro reading straight taper
  have hfraction := fraction_pos hlow hhigh hpos
  have hstraight : straight.Ordered :=
    (ordered_of_le (h.straightLine_mono hlow (ordered_of_le hlow).2.le_refl hhigh)).1
  have htaper : taper.Ordered := (ordered_of_le (taperLine_le hlog hfraction hlow hhigh)).1
  have hreading : reading = if taper < straight then
      ⟨straight, [flatInstead straight v taper (decibels maxDb) (decibels minDb)]⟩
      else ⟨taper, []⟩ := by
    change taperedReading log2 v maxDb minDb = _
    rw [taperedReading_eq, if_neg hpos, h.taperLine_smaller hlog hfraction hlow hhigh]
  rw [hreading]
  split
  case isTrue hbelow =>
    refine ⟨⟨Or.inl rfl, ?_⟩, rfl⟩
    rintro line (rfl | rfl)
    · exact hstraight.le_refl
    · exact Or.inl hbelow
  case isFalse hnot =>
    refine ⟨⟨Or.inr rfl, ?_⟩, rfl⟩
    rintro line (rfl | rfl)
    · exact le_of_not_lt htaper hstraight hnot
    · exact htaper.le_refl

theorem taperedReading_bottom (hv : fraction v ≤ 0) :
    taperedReading log2 v maxDb minDb = ⟨decibels minDb, []⟩ := by
  rw [taperedReading_eq, if_pos hv]

theorem min_le_tapered (h : Moderate maxDb minDb) (hlog : Logarithmic log2)
    (hlow : lowest ≤ v) (hhigh : v ≤ highest) :
    decibels minDb ≤ (taperedReading log2 v maxDb minDb).attenuation := by
  by_cases hbottom : fraction v ≤ 0
  · rw [taperedReading_bottom hbottom]
    exact (Ordered.of_number h.datum_min).le_refl
  · have hstraight : decibels minDb ≤ straightLine maxDb minDb v :=
      trans_le ((le_iff h.datum_min (h.datum_straightLine_lowest datum_lowest)).mpr le_rfl)
        (h.straightLine_mono (ordered_of_le hlow).1.le_refl hlow hhigh)
    exact trans_le hstraight
      ((h.taperedReading_louder hlog hlow hhigh hbottom).1.2 (Or.inl rfl))

/-- Both lines are louder at a higher volume, so the louder of them is. -/
theorem tapered_mono (h : Moderate maxDb minDb) (hlog : Logarithmic log2) (hlow : lowest ≤ u)
    (huv : u ≤ v) (hhigh : v ≤ highest) :
    (taperedReading log2 u maxDb minDb).attenuation ≤
      (taperedReading log2 v maxDb minDb).attenuation := by
  have hlowv : lowest ≤ v := trans_le hlow huv
  have hhighu : u ≤ highest := trans_le huv hhigh
  by_cases hbottom : fraction u ≤ 0
  · rw [taperedReading_bottom hbottom]
    exact h.min_le_tapered hlog hlowv hhigh
  · have hpos := fraction_pos hlow hhighu hbottom
    have hbottomv : ¬ fraction v ≤ 0 := fun hv =>
      hbottom (trans_le (fraction_mono hlow huv hhigh) hv)
    have hu := (h.taperedReading_louder hlog hlow hhighu hbottom).1
    have hv := (h.taperedReading_louder hlog hlowv hhigh hbottomv).1
    rcases hu.1 with hstraight | htaper
    · rw [hstraight]
      exact trans_le (h.straightLine_mono hlow huv hhigh) (hv.2 (Or.inl rfl))
    · rw [htaper]
      exact trans_le (taperLine_mono hlog hpos hlow huv hhigh) (hv.2 (Or.inr rfl))

theorem datum_tapered_highest (h : Moderate maxDb minDb) (hlog : Logarithmic log2)
    (hv : v.datum = .number 0) :
    (taperedReading log2 v maxDb minDb).attenuation.datum = .number maxDb.toInt := by
  have hlow : lowest ≤ v := (le_iff datum_lowest hv).mpr (by norm_num)
  have hhigh : v ≤ highest := (le_iff hv datum_highest).mpr le_rfl
  have hpos : ¬ fraction v ≤ 0 := by
    rw [le_iff (datum_fraction_highest hv) datum_zero]
    norm_num
  have hfull := h.datum_straightLine_highest hv
  obtain ⟨hmem, hupper⟩ := (h.taperedReading_louder hlog hlow hhigh hpos).1
  rcases hmem with hstraight | htaper
  · rw [hstraight]
    exact hfull
  · have hle : straightLine maxDb minDb v ≤ taperLine log2 maxDb v := htaper ▸ hupper (Or.inl rfl)
    obtain ⟨a, ha, hlowa, hhigha⟩ := datum_of_le_of_le hfull h.datum_max hle
      (taperLine_le hlog (fraction_pos hlow hhigh hpos) hlow hhigh)
    rw [htaper, ha, le_antisymm hhigha hlowa]

theorem datum_tapered_lowest (h : Moderate maxDb minDb) (hv : v.datum = .number (-30)) :
    (taperedReading log2 v maxDb minDb).attenuation.datum = .number minDb.toInt := by
  have hbottom : fraction v ≤ 0 := (le_iff (datum_fraction_lowest hv) datum_zero).mpr le_rfl
  rw [taperedReading_bottom hbottom]
  exact h.datum_min

end Moderate

/-- With any logarithm that rises and is zero at one, the tapered curve is at the lower bound where
nothing of the travel is left below the volume, and else the louder of the taper and the straight
line, with a report exactly where the straight line is above the taper. It rises from one bound to
the other and leaves the range nowhere. -/
theorem tapered_curve_is_louder_line {log2 : Binary64 → Binary64} (hlog : Logarithmic log2)
    {maxDb minDb : Int64} (horder : minDb ≤ maxDb) (hmax : |maxDb.toInt| ≤ 2 ^ 40)
    (hmin : |minDb.toInt| ≤ 2 ^ 40) :
    (taperedWith log2).Spans maxDb minDb ∧
    ∀ v, lowest ≤ v → v ≤ highest →
      let reading := (taperedWith log2).attenuate v maxDb minDb
      let straight := straightLine maxDb minDb v
      let taper := taperLine log2 maxDb v
      (fraction v ≤ 0 → reading = ⟨decibels minDb, []⟩) ∧
      (¬ fraction v ≤ 0 → IsGreatest {straight, taper} reading.attenuation ∧
        reading.events = if taper < straight then
          [flatInstead straight v taper (decibels maxDb) (decibels minDb)] else []) := by
  have hbounds : Moderate maxDb minDb := ⟨horder, hmax, hmin⟩
  have hvalue : ∀ v, ((taperedWith log2).audible v maxDb minDb).attenuation =
      (taperedReading log2 v maxDb minDb).attenuation := fun v => by rw [audible_taperedWith]
  refine ⟨Curve.spans_of_mono hvalue (hbounds.tapered_mono hlog)
    (hbounds.datum_tapered_highest hlog) hbounds.datum_tapered_lowest, ?_⟩
  intro v hlow hhigh
  rw [attenuate_of_audible _ hlow hhigh, audible_taperedWith]
  exact ⟨Moderate.taperedReading_bottom, hbounds.taperedReading_louder hlog hlow hhigh⟩

/-- A narrow range, where the straight line takes over at the low end of the travel. -/
theorem tapered_curve_is_louder_line_narrow :
    Logarithmic Binary64.log2 ∧ (-3000 : Int64) ≤ 0 ∧ |(0 : Int64).toInt| ≤ 2 ^ 40 ∧
      |(-3000 : Int64).toInt| ≤ 2 ^ 40 ∧
      (∃ a b : Rat, (tapered.attenuate (-27) 0 (-3000)).attenuation.datum = .number a ∧
        (tapered.attenuate (-15) 0 (-3000)).attenuation.datum = .number b ∧
        -3000 ≤ a ∧ a ≤ b ∧ b ≤ 0) ∧
      (tapered.attenuate (-0) 0 (-3000)).attenuation.datum = .number 0 ∧
      tapered.attenuate (-30) 0 (-3000) = ⟨decibels (-3000), []⟩ ∧
      (tapered.attenuate (-27) 0 (-3000)).events.map (·.level) = [.trace] ∧
      IsGreatest {straightLine 0 (-3000) (-15), taperLine Binary64.log2 0 (-15)}
        (tapered.attenuate (-15) 0 (-3000)).attenuation := by
  have horder : (-3000 : Int64) ≤ 0 := by decide
  have hmax : |(0 : Int64).toInt| ≤ 2 ^ 40 := by decide
  have hmin : |(-3000 : Int64).toInt| ≤ 2 ^ 40 := by decide
  obtain ⟨⟨hrises, hfull, -⟩, hlouder⟩ :=
    tapered_curve_is_louder_line logarithmic_log2 horder hmax hmin
  obtain ⟨hbottom, -⟩ := hlouder (-30) (by decide +kernel) (by decide +kernel)
  obtain ⟨-, hlow⟩ := hlouder (-27) (by decide +kernel) (by decide +kernel)
  obtain ⟨-, hmiddle⟩ := hlouder (-15) (by decide +kernel) (by decide +kernel)
  refine ⟨logarithmic_log2, horder, hmax, hmin, ?_, hfull (-0) (by decide +kernel), ?_, ?_, ?_⟩
  · exact hrises (-27) (-15) (by decide +kernel) (by decide +kernel) (by decide +kernel)
  · exact hbottom (by decide +kernel)
  · have hbelow : taperLine Binary64.log2 0 (-27) < straightLine 0 (-3000) (-27) := by decide +kernel
    obtain ⟨-, hevents⟩ := hlow (by decide +kernel)
    rw [if_pos hbelow] at hevents
    rw [tapered, hevents]
    rfl
  · exact (hmiddle (by decide +kernel)).1

end Hush.Volume
