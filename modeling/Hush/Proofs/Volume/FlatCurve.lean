import Hush.Proofs.Volume.Bounds

/-!
# The flat curve spans its range

From the lowest volume up, the way gone, its product with the distance of the bounds, a thirtieth of
that and the sum with the lower bound rise one after another, however they are rounded. At both ends
nothing is rounded: the way is 0 or 30, so the product is a whole number of few bits and the division
takes back what the product brought. Between the ends the curve is between the bounds.
-/
namespace Hush.Volume

open Binary64

variable {u v : Binary64} {maxDb minDb : Int64}

/-- On the travel the way from the lowest volume is a number that rises from 0 to 30. -/
theorem way_mono (hlow : lowest ≤ u) (huv : u ≤ v) (hhigh : v ≤ highest) :
    ∃ p q : Rat, (u - lowest).datum = .number p ∧ (v - lowest).datum = .number q ∧ p ≤ q := by
  have hlift := datum_neg datum_lowest
  have hbottom := datum_way (n := -30) datum_lowest (by decide)
  have hfirst : lowest - lowest ≤ u - lowest := add_number_mono hlift hlow
  have hmiddle : u - lowest ≤ v - lowest := add_number_mono hlift huv
  have hlast : v - lowest ≤ highest - lowest := add_number_mono hlift hhigh
  obtain ⟨p, hp, -, -⟩ := datum_of_le_of_le hbottom datum_travel hfirst (trans_le hmiddle hlast)
  obtain ⟨q, hq, -, -⟩ := datum_of_le_of_le hbottom datum_travel (trans_le hfirst hmiddle) hlast
  exact ⟨p, q, hp, hq, (le_iff hp hq).mp hmiddle⟩

namespace Moderate

theorem datum_span (h : Moderate maxDb minDb) :
    (decibels (maxDb - minDb)).datum = .number (maxDb.toInt - minDb.toInt : Int) := by
  have hnonneg := h.distance_nonneg
  have hle := h.distance_le
  rw [← h.toInt_sub] at hnonneg hle ⊢
  exact datum_decibels_of_abs_lt (abs_lt.mpr ⟨by omega, by omega⟩)

theorem flatValue_mono (h : Moderate maxDb minDb) (hlow : lowest ≤ u) (huv : u ≤ v)
    (hhigh : v ≤ highest) : flatValue u maxDb minDb ≤ flatValue v maxDb minDb := by
  have hspan : (0 : Rat) ≤ (maxDb.toInt - minDb.toInt : Int) := by exact_mod_cast h.distance_nonneg
  obtain ⟨p, q, hp, hq, hpq⟩ := way_mono hlow huv hhigh
  have hproduct : decibels (maxDb - minDb) * (u - lowest) ≤
      decibels (maxDb - minDb) * (v - lowest) :=
    mul_le_mul_of_datum h.datum_span hp hq (mul_le_mul_of_nonneg_left hpq hspan)
  exact add_number_mono h.datum_min (div_number_mono datum_travel (by norm_num) hproduct)

/-- Where the way takes a whole part of the distance, the curve has exactly that part. -/
theorem datum_flatValue (h : Moderate maxDb minDb) {way part : Int}
    (hway : (v - lowest).datum = .number way) (hlow : 0 ≤ part)
    (hhigh : part ≤ maxDb.toInt - minDb.toInt)
    (hpart : (maxDb.toInt - minDb.toInt) * way = part * 30) :
    (flatValue v maxDb minDb).datum = .number (part + minDb.toInt : Int) := by
  have hle := h.distance_le
  have hmin := abs_le.mp h.abs_min_le
  have hproduct : (decibels (maxDb - minDb) * (v - lowest)).datum = .number (part * 30 : Int) := by
    rw [← hpart]
    exact datum_mul_of_whole h.datum_span hway (hpart ▸ abs_lt.mpr ⟨by omega, by omega⟩)
  have hquotient : (decibels (maxDb - minDb) * (v - lowest) / (highest - lowest)).datum =
      .number part :=
    datum_div_of_whole hproduct datum_travel (by decide) (abs_lt.mpr ⟨by omega, by omega⟩)
  exact datum_add_of_whole hquotient h.datum_min (abs_lt.mpr ⟨by omega, by omega⟩)

theorem datum_flatValue_lowest (h : Moderate maxDb minDb) (hv : v.datum = .number (-30)) :
    (flatValue v maxDb minDb).datum = .number minDb.toInt := by
  have hway : (v - lowest).datum = .number (0 : Int) := datum_way (n := -30) hv (by decide)
  have hvalue := h.datum_flatValue hway le_rfl h.distance_nonneg (by ring)
  rwa [zero_add] at hvalue

theorem datum_flatValue_highest (h : Moderate maxDb minDb) (hv : v.datum = .number 0) :
    (flatValue v maxDb minDb).datum = .number maxDb.toInt := by
  have hway : (v - lowest).datum = .number (30 : Int) := datum_way (n := 0) hv (by decide)
  have hvalue := h.datum_flatValue hway h.distance_nonneg le_rfl (by ring)
  rwa [sub_add_cancel] at hvalue

end Moderate

/-- The flat curve rises with the volume, from the lower bound at the lowest volume to the upper bound
at full volume, and leaves the range nowhere. -/
theorem flat_curve_spans_range {maxDb minDb : Int64} (horder : minDb ≤ maxDb)
    (hmax : |maxDb.toInt| ≤ 2 ^ 40) (hmin : |minDb.toInt| ≤ 2 ^ 40) :
    flat.Spans maxDb minDb := by
  have hbounds : Moderate maxDb minDb := ⟨horder, hmax, hmin⟩
  exact Curve.spans_of_mono (fun _ => rfl) hbounds.flatValue_mono hbounds.datum_flatValue_highest
    hbounds.datum_flatValue_lowest

/-- A range whose distance is no multiple of thirty, at volumes that no division makes whole. -/
theorem flat_curve_spans_odd_range :
    (-5001 : Int64) ≤ 1000 ∧ |(1000 : Int64).toInt| ≤ 2 ^ 40 ∧ |(-5001 : Int64).toInt| ≤ 2 ^ 40 ∧
      (∃ a b : Rat, (flat.attenuate (-17) 1000 (-5001)).attenuation.datum = .number a ∧
        (flat.attenuate (-5) 1000 (-5001)).attenuation.datum = .number b ∧
        -5001 ≤ a ∧ a ≤ b ∧ b ≤ 1000) ∧
      (flat.attenuate (-0) 1000 (-5001)).attenuation.datum = .number 1000 ∧
      (flat.attenuate (-30) 1000 (-5001)).attenuation.datum = .number (-5001) := by
  have horder : (-5001 : Int64) ≤ 1000 := by decide
  have hmax : |(1000 : Int64).toInt| ≤ 2 ^ 40 := by decide
  have hmin : |(-5001 : Int64).toInt| ≤ 2 ^ 40 := by decide
  obtain ⟨hrises, hfull, hbottom⟩ := flat_curve_spans_range horder hmax hmin
  refine ⟨horder, hmax, hmin, ?_, hfull (-0) (by decide +kernel), hbottom (-30) (by decide +kernel)⟩
  exact hrises (-17) (-5) (by decide +kernel) (by decide +kernel) (by decide +kernel)

end Hush.Volume
