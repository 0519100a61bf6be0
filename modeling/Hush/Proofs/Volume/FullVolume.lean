import Hush.Proofs.Volume.Bounds

/-!
# Full volume against mute

The bounds of an accepted range are in order, but the word that holds their distance is only right
below `2 ^ 63`; from there on it is the distance less `2 ^ 64` and lies below zero. The lines of the
standard curve leave zero at full volume whatever their floors are, and the taper takes its distance
from the bounds as numbers, so these curves stay above mute at full volume all the same. The flat
curve multiplies with the word and follows its sign.
-/
namespace Hush.Volume

open Binary64

/-! ### The flat curve -/

/-- What the flat curve adds to the lower bound at full volume, for a word of distance. -/
def flatRise (distance : Int) : Rat := rounded (rounded (rounded distance * 30) / 30)

theorem flatRise_nonneg {distance : Int} (h : 0 ≤ distance) : 0 ≤ flatRise distance := by
  have hdistance : 0 ≤ rounded distance := rounded_nonneg (by exact_mod_cast h)
  exact rounded_nonneg (div_nonneg (rounded_nonneg (by positivity)) (by norm_num))

theorem flatRise_nonpos {distance : Int} (h : distance ≤ 0) : flatRise distance ≤ 0 := by
  have hneg : 0 ≤ flatRise (-distance) := flatRise_nonneg (by omega)
  rw [flatRise, Int.cast_neg, rounded_neg, neg_mul, rounded_neg, neg_div, rounded_neg] at hneg
  exact neg_nonneg.mp hneg

theorem datum_flatValue_zero (negative : Bool) (maxDb minDb : Int64) :
    (flatValue (ofMagnitude negative 0) maxDb minDb).datum =
      .number (rounded (flatRise (maxDb - minDb).toInt + rounded minDb.toInt)) := by
  have hrise : (ofMagnitude negative 0 - lowest).datum = .number 30 :=
    datum_way (n := 0) (datum_zeros negative) (by decide)
  have hproduct : |rounded (maxDb - minDb).toInt * 30| ≤ 2 ^ 68 := by
    rw [abs_mul]
    calc |rounded (maxDb - minDb).toInt| * |30| ≤ 2 ^ 63 * 2 ^ 5 := by
          gcongr
          · exact abs_rounded_toInt_le _
          · norm_num
      _ = 2 ^ 68 := by norm_num
  have hquotient : |rounded (rounded (maxDb - minDb).toInt * 30) / 30| ≤ 2 ^ 68 := by
    rw [abs_div]
    calc |rounded (rounded (maxDb - minDb).toInt * 30)| / |30| ≤ 2 ^ 68 / 1 := by
          gcongr
          · exact abs_rounded_le_two_pow (by decide) hproduct
          · norm_num
      _ = 2 ^ 68 := div_one _
  have hsum : |flatRise (maxDb - minDb).toInt + rounded minDb.toInt| ≤ 2 ^ 69 := by
    calc |flatRise (maxDb - minDb).toInt + rounded minDb.toInt|
        ≤ |flatRise (maxDb - minDb).toInt| + |rounded minDb.toInt| := abs_add_le _ _
      _ ≤ 2 ^ 68 + 2 ^ 63 :=
        add_le_add (abs_rounded_le_two_pow (by decide) hquotient) (abs_rounded_toInt_le _)
      _ ≤ 2 ^ 69 := by norm_num
  have hmul := datum_mul (datum_decibels (maxDb - minDb)) hrise
    (fits_of_abs_le_two_pow (by decide) hproduct)
  have hdiv := datum_div hmul datum_travel (by norm_num) (fits_of_abs_le_two_pow (by decide) hquotient)
  exact datum_add hdiv (datum_decibels minDb) (fits_of_abs_le_two_pow (by decide) hsum)

theorem decibels_le_flat_zero (negative : Bool) {maxDb minDb : Int64}
    (h : 0 ≤ (maxDb - minDb).toInt) :
    decibels minDb ≤ flatValue (ofMagnitude negative 0) maxDb minDb := by
  rw [le_iff (datum_decibels minDb) (datum_flatValue_zero negative maxDb minDb)]
  calc rounded minDb.toInt = rounded (rounded minDb.toInt) :=
        (rounded_of_datum (datum_decibels minDb)).2.symm
    _ ≤ rounded (flatRise (maxDb - minDb).toInt + rounded minDb.toInt) :=
        rounded_mono (le_add_of_nonneg_left (flatRise_nonneg h))

theorem flat_zero_le_decibels (negative : Bool) {maxDb minDb : Int64}
    (h : (maxDb - minDb).toInt ≤ 0) :
    flatValue (ofMagnitude negative 0) maxDb minDb ≤ decibels minDb := by
  rw [le_iff (datum_flatValue_zero negative maxDb minDb) (datum_decibels minDb)]
  calc rounded (flatRise (maxDb - minDb).toInt + rounded minDb.toInt)
      ≤ rounded (rounded minDb.toInt) :=
        rounded_mono (add_le_of_nonpos_left (flatRise_nonpos h))
    _ = rounded minDb.toInt := (rounded_of_datum (datum_decibels minDb)).2

/-! ### The standard curve -/

/-- The first line leaves zero at full volume and the others do not apply there. -/
theorem lowestLine_zero (negative : Bool) {gentle : Binary64} {g : Rat}
    (hgentle : gentle.datum = .number g) (middle steep : Binary64) :
    lowestLine (ofMagnitude negative 0) [⟨0, gentle⟩, ⟨-5, middle⟩, ⟨-17, steep⟩] = 0 := by
  have hrise : (ofMagnitude negative 0 - 0).datum = .number 0 :=
    datum_sub_of_whole (m := 0) (n := 0) (datum_zeros negative) datum_zero (by decide)
  have hrun : (lowest - 0).datum = .number (-30) :=
    datum_sub_of_whole (m := -30) (n := 0) datum_lowest datum_zero (by decide)
  have hfits : Fits 0 := (rounded_of_datum datum_zero).1
  have hmul := datum_mul hgentle hrise (by rwa [mul_zero])
  rw [mul_zero, rounded_zero] at hmul
  have hvalue := datum_div hmul hrun (by norm_num) (by rwa [zero_div])
  rw [zero_div, rounded_zero] at hvalue
  have hfirst : ¬ gentle * (ofMagnitude negative 0 - 0) / (lowest - 0) < 0 := by
    rw [lt_iff hvalue datum_zero]
    exact lt_irrefl 0
  have hmiddle : ¬ ofMagnitude negative 0 ≤ -5 := by
    rw [le_iff (datum_zeros negative) (datum_neg (datum_numeral (by decide)))]
    norm_num
  have hsteep : ¬ ofMagnitude negative 0 ≤ -17 := by
    rw [le_iff (datum_zeros negative) (datum_neg (datum_numeral (by decide)))]
    norm_num
  simp [lowestLine, Segment.value, hfirst, hmiddle, hsteep]

theorem datum_segmentedValue_zero (negative : Bool) (maxDb minDb : Int64) :
    (segmentedValue (ofMagnitude negative 0) maxDb minDb).datum =
      .number (rounded maxDb.toInt) := by
  have hline : lowestLine (ofMagnitude negative 0) (segments (maxDb - minDb)) = 0 := by
    unfold segments
    dsimp only
    split
    · exact lowestLine_zero negative (datum_decibels _) _ _
    · exact lowestLine_zero negative (datum_decibels _) _ _
  obtain ⟨hfits, hround⟩ := rounded_of_datum (datum_decibels maxDb)
  have hadd := datum_add datum_zero (datum_decibels maxDb) (by rwa [zero_add])
  rw [zero_add, hround] at hadd
  rwa [segmentedValue, hline]

theorem decibels_le_segmented_zero (negative : Bool) {maxDb minDb : Int64} (h : minDb ≤ maxDb) :
    decibels minDb ≤ segmentedValue (ofMagnitude negative 0) maxDb minDb := by
  rw [le_iff (datum_decibels minDb) (datum_segmentedValue_zero negative maxDb minDb)]
  exact rounded_bound_mono h

/-! ### The taper -/

/-- The taper itself is at the upper bound, and the straight line is taken only where it is above
the taper. -/
theorem decibels_le_tapered_zero (negative : Bool) {maxDb minDb : Int64} (h : minDb ≤ maxDb) :
    decibels minDb ≤ (tapered.audible (ofMagnitude negative 0) maxDb minDb).attenuation := by
  have hfraction : 1 - ofMagnitude negative 0 / lowest = 1 := by
    cases negative <;> decide +kernel
  have hpositive : ¬ (1 : Binary64) ≤ 0 := by decide +kernel
  have hloss : (dbPerHalving * log2 1).datum = .number 0 := by decide +kernel
  obtain ⟨hfits, hround⟩ := rounded_of_datum (datum_decibels maxDb)
  have htaper := datum_add (datum_decibels maxDb) hloss (by rwa [add_zero])
  rw [add_zero, hround] at htaper
  have hbounds := rounded_bound_mono h
  unfold tapered taperedWith taperedReading
  dsimp only
  rw [hfraction, if_neg hpositive]
  split
  case isTrue hflat => exact le_of_le_of_lt (datum_decibels minDb) htaper hbounds hflat
  case isFalse =>
    dsimp only [smaller]
    split
    · exact (le_iff (datum_decibels minDb) htaper).mpr hbounds
    · exact (le_iff (datum_decibels minDb) (datum_decibels maxDb)).mpr hbounds

/-! ### Full volume and mute -/

/-- In an accepted range the bounds are in order. While their distance is below `2 ^ 63` its word is
exact and no profile is quieter at full volume than muted. From there on the word is below zero:
the standard curve and the taper are still no quieter than muted, and the flat curve is no louder. -/
theorem full_volume_against_mute {maxDb minDb : Int64} {r : Range} {full : Binary64}
    (haccepted : Range.ofBounds maxDb minDb = .ok r) (hfull : Same full highest) :
    let distance := maxDb.toInt - minDb.toInt
    let atFull := fun p : Profile => (p.attenuate full r).attenuation
    let muted := fun p : Profile => (p.attenuate mutedWire r).attenuation
    0 ≤ distance ∧ r.span = maxDb - minDb ∧
    (distance < 2 ^ 63 → r.span.toInt = distance ∧ ∀ p, muted p ≤ atFull p) ∧
    (2 ^ 63 ≤ distance → r.span.toInt = distance - 2 ^ 64 ∧ r.span.toInt < 0 ∧
      muted .standard ≤ atFull .standard ∧ muted .daslTapered ≤ atFull .daslTapered ∧
      atFull .flat ≤ muted .flat) := by
  intro distance atFull muted
  obtain ⟨negative, rfl⟩ := eq_zero_of_same hfull
  unfold Range.ofBounds at haccepted
  split_ifs at haccepted with hle
  cases haccepted
  have hword : (maxDb - minDb).toInt =
      if distance < 2 ^ 63 then distance else distance - 2 ^ 64 := toInt_distance hle
  have hmuted : ∀ p, muted p = decibels minDb := by
    intro p
    exact congrArg Reading.attenuation (attenuate_mutedWire p.curve maxDb minDb)
  have hatFull : ∀ p, atFull p =
      (p.curve.audible (ofMagnitude negative 0) maxDb minDb).attenuation := by
    intro p
    exact congrArg Reading.attenuation (attenuate_zero p.curve negative maxDb minDb)
  have hordered : 0 ≤ distance := Int.sub_nonneg.mpr (Int64.le_iff_toInt_le.mp hle)
  have hstandard : muted .standard ≤ atFull .standard := by
    rw [hmuted, hatFull]
    exact decibels_le_segmented_zero negative hle
  have htapered : muted .daslTapered ≤ atFull .daslTapered := by
    rw [hmuted, hatFull]
    exact decibels_le_tapered_zero negative hle
  refine ⟨hordered, rfl, ?_, ?_⟩
  · intro hdistance
    rw [if_pos hdistance] at hword
    refine ⟨hword, ?_⟩
    rintro (_ | _ | _)
    · exact hstandard
    · rw [hmuted, hatFull]
      exact decibels_le_flat_zero negative (hword ▸ hordered)
    · exact htapered
  · intro hdistance
    rw [if_neg (not_lt.mpr hdistance)] at hword
    have hnegative : (maxDb - minDb).toInt < 0 := by
      have hhigh := maxDb.toInt_lt
      have hlow := minDb.le_toInt
      omega
    refine ⟨hword, hnegative, hstandard, htapered, ?_⟩
    rw [hmuted, hatFull]
    exact flat_zero_le_decibels negative hnegative.le

/-- The range of a device that says nothing about its range. -/
theorem full_volume_against_mute_default :
    ∃ r, Range.ofBounds defaultMaxDb defaultMinDb = .ok r ∧ r.span.toInt = 6000 ∧
      ∀ p : Profile, (p.attenuate mutedWire r).attenuation ≤ (p.attenuate highest r).attenuation := by
  have haccepted : Range.ofBounds defaultMaxDb defaultMinDb = .ok ⟨0, -6000, by decide⟩ := rfl
  have hfull : Same highest highest := by rw [Same, datum_highest]
  obtain ⟨-, -, hexact, -⟩ := full_volume_against_mute haccepted hfull
  obtain ⟨hspan, hlouder⟩ := hexact (by decide)
  exact ⟨_, haccepted, hspan, hlouder⟩

/-- Bounds in order whose distance is `2 ^ 63`: full volume is below mute on the flat curve. -/
theorem wrapped_distance_turns_flat_over :
    let r : Range := ⟨9223372036854775807, -1, by decide⟩
    Range.ofBounds 9223372036854775807 (-1) = .ok r ∧
      r.span.toInt ≠ 9223372036854775807 - (-1) ∧ r.span.toInt < 0 ∧
      (Profile.flat.attenuate highest r).attenuation <
        (Profile.flat.attenuate mutedWire r).attenuation :=
  ⟨rfl, by decide, by decide, by decide +kernel⟩

end Hush.Volume
