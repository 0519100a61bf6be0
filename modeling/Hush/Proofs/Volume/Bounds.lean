import Hush.Proofs.Binary64.Exact
import Hush.Proofs.Binary64.Order
import Hush.Volume.Curve

/-!
# Bounds and requests

The word that holds the distance of two bounds in order is right below `2 ^ 63` and the distance less
`2 ^ 64` from there on. Bounds of at most `2 ^ 40` leave enough bits for them and for their distance
to be exact numbers. A volume on the travel is a number from -30 to 0, both zeros among them, and a
curve that rises over the travel from one exact bound to the other is between them everywhere.
-/
namespace Hush.Volume

open Binary64

/-! ### Bounds and their distance -/

theorem toInt_distance {maxDb minDb : Int64} (h : minDb ≤ maxDb) :
    (maxDb - minDb).toInt =
      if maxDb.toInt - minDb.toInt < 2 ^ 63 then maxDb.toInt - minDb.toInt
      else maxDb.toInt - minDb.toInt - 2 ^ 64 := by
  have hle := Int64.le_iff_toInt_le.mp h
  have hlow := minDb.le_toInt
  have hhigh := maxDb.toInt_lt
  have hmod : (maxDb.toInt - minDb.toInt) % (2 ^ 64 : Nat) = maxDb.toInt - minDb.toInt :=
    Int.emod_eq_of_lt (by omega) (by omega)
  rw [Int64.toInt_sub, Int.bmod_def, hmod]
  rfl

theorem abs_toInt_le (bound : Int64) : |(bound.toInt : Rat)| ≤ 2 ^ 63 :=
  abs_le.mpr ⟨by exact_mod_cast bound.le_toInt, by exact_mod_cast bound.toInt_lt.le⟩

theorem abs_rounded_toInt_le (bound : Int64) : |rounded bound.toInt| ≤ 2 ^ 63 :=
  abs_rounded_le_two_pow (by decide) (abs_toInt_le bound)

theorem datum_decibels (bound : Int64) :
    (decibels bound).datum = .number (rounded bound.toInt) :=
  datum_nearest _ (fits_of_abs_le_two_pow (by decide) (abs_toInt_le bound))

theorem rounded_bound_mono {a b : Int64} (h : a ≤ b) : rounded a.toInt ≤ rounded b.toInt :=
  rounded_mono (by exact_mod_cast Int64.le_iff_toInt_le.mp h)

/-- A bound of few bits is its own number. -/
theorem datum_decibels_of_abs_lt {bound : Int64} (h : |bound.toInt| < 2 ^ 53) :
    (decibels bound).datum = .number bound.toInt := datum_ofInt h

/-- Bounds in order that leave enough bits for exact arithmetic. -/
structure Moderate (maxDb minDb : Int64) : Prop where
  ordered : minDb ≤ maxDb
  abs_max_le : |maxDb.toInt| ≤ 2 ^ 40
  abs_min_le : |minDb.toInt| ≤ 2 ^ 40

namespace Moderate

variable {maxDb minDb : Int64}

theorem toInt_sub (h : Moderate maxDb minDb) :
    (maxDb - minDb).toInt = maxDb.toInt - minDb.toInt := by
  have hmax := abs_le.mp h.abs_max_le
  have hmin := abs_le.mp h.abs_min_le
  rw [toInt_distance h.ordered, if_pos (by omega)]

theorem distance_nonneg (h : Moderate maxDb minDb) : 0 ≤ maxDb.toInt - minDb.toInt :=
  Int.sub_nonneg.mpr (Int64.le_iff_toInt_le.mp h.ordered)

theorem distance_le (h : Moderate maxDb minDb) : maxDb.toInt - minDb.toInt ≤ 2 ^ 41 := by
  have hmax := abs_le.mp h.abs_max_le
  have hmin := abs_le.mp h.abs_min_le
  omega

theorem datum_max (h : Moderate maxDb minDb) : (decibels maxDb).datum = .number maxDb.toInt :=
  datum_decibels_of_abs_lt (h.abs_max_le.trans_lt (by norm_num))

theorem datum_min (h : Moderate maxDb minDb) : (decibels minDb).datum = .number minDb.toInt :=
  datum_decibels_of_abs_lt (h.abs_min_le.trans_lt (by norm_num))

theorem rounded_max (h : Moderate maxDb minDb) : rounded maxDb.toInt = maxDb.toInt :=
  (rounded_of_datum h.datum_max).2

theorem rounded_min (h : Moderate maxDb minDb) : rounded minDb.toInt = minDb.toInt :=
  (rounded_of_datum h.datum_min).2

end Moderate

/-! ### Requests -/

variable {v : Binary64}

theorem datum_lowest : lowest.datum = .number (-30) := datum_neg (datum_numeral (by decide))

theorem datum_highest : highest.datum = .number 0 := datum_zero

theorem datum_mutedWire : mutedWire.datum = .number (-144) := datum_neg (datum_numeral (by decide))

/-- A volume that is a whole number is a whole way above the lowest one. -/
theorem datum_way {n : Int} (hv : v.datum = .number n) (h : |n - -30| < 2 ^ 53) :
    (v - lowest).datum = .number (n - -30 : Int) := datum_sub_of_whole hv datum_lowest h

theorem datum_travel : (highest - lowest).datum = .number 30 :=
  datum_way (n := 0) datum_highest (by decide)

theorem datum_of_audible (hlow : lowest ≤ v) (hhigh : v ≤ highest) :
    ∃ q, v.datum = .number q ∧ -30 ≤ q ∧ q ≤ 0 :=
  datum_of_le_of_le datum_lowest datum_highest hlow hhigh

theorem ofWire_of_audible (hlow : lowest ≤ v) (hhigh : v ≤ highest) :
    Request.ofWire v = .ok (.audible v) := if_pos ⟨hlow, hhigh⟩

theorem ofWire_zero (negative : Bool) :
    Request.ofWire (ofMagnitude negative 0) = .ok (.audible (ofMagnitude negative 0)) := by
  have haudible : lowest ≤ ofMagnitude negative 0 ∧ ofMagnitude negative 0 ≤ highest := by
    rw [le_iff datum_lowest (datum_zeros negative), le_iff (datum_zeros negative) datum_highest]
    norm_num
  exact ofWire_of_audible haudible.1 haudible.2

theorem ofWire_of_muted (hv : v.datum = .number (-144)) : Request.ofWire v = .ok .muted := by
  have hbelow : ¬ lowest ≤ v := by
    rw [le_iff datum_lowest hv]
    norm_num
  have hsame : Same v mutedWire := by rw [Same, hv, datum_mutedWire]
  rw [Request.ofWire, if_neg fun both => hbelow both.1, if_pos hsame]

theorem attenuate_of_audible (c : Curve) (hlow : lowest ≤ v) (hhigh : v ≤ highest)
    (maxDb minDb : Int64) : c.attenuate v maxDb minDb = c.audible v maxDb minDb := by
  unfold Curve.attenuate
  rw [ofWire_of_audible hlow hhigh]

theorem attenuate_zero (c : Curve) (negative : Bool) (maxDb minDb : Int64) :
    c.attenuate (ofMagnitude negative 0) maxDb minDb =
      c.audible (ofMagnitude negative 0) maxDb minDb := by
  unfold Curve.attenuate
  rw [ofWire_zero]

theorem attenuate_mutedWire (c : Curve) (maxDb minDb : Int64) :
    c.attenuate mutedWire maxDb minDb = ⟨decibels minDb, []⟩ := by
  unfold Curve.attenuate
  rw [ofWire_of_muted datum_mutedWire]

/-! ### From end to end -/

/-- The curve rises over the travel, from exactly the lower bound to exactly the upper one. -/
structure Curve.Spans (c : Curve) (maxDb minDb : Int64) : Prop where
  rises : ∀ u v, lowest ≤ u → u ≤ v → v ≤ highest →
    ∃ a b : Rat, (c.attenuate u maxDb minDb).attenuation.datum = .number a ∧
      (c.attenuate v maxDb minDb).attenuation.datum = .number b ∧
      minDb.toInt ≤ a ∧ a ≤ b ∧ b ≤ maxDb.toInt
  full : ∀ v, Same v highest →
    (c.attenuate v maxDb minDb).attenuation.datum = .number maxDb.toInt
  bottom : ∀ v, Same v lowest →
    (c.attenuate v maxDb minDb).attenuation.datum = .number minDb.toInt

/-- Exact ends and a rise in the order of patterns are enough: what is between two numbers is one. -/
theorem Curve.spans_of_mono {c : Curve} {maxDb minDb : Int64} {value : Binary64 → Binary64}
    (hvalue : ∀ v, (c.audible v maxDb minDb).attenuation = value v)
    (hmono : ∀ {u v}, lowest ≤ u → u ≤ v → v ≤ highest → value u ≤ value v)
    (hfull : ∀ {v}, v.datum = .number 0 → (value v).datum = .number maxDb.toInt)
    (hbottom : ∀ {v}, v.datum = .number (-30) → (value v).datum = .number minDb.toInt) :
    c.Spans maxDb minDb := by
  refine ⟨?rises, ?full, ?bottom⟩
  case rises =>
    intro u v hlow huv hhigh
    have hlowv := trans_le hlow huv
    have hhighu := trans_le huv hhigh
    rw [attenuate_of_audible c hlow hhighu, attenuate_of_audible c hlowv hhigh, hvalue, hvalue]
    have hfirst := hmono (ordered_of_le hlow).1.le_refl hlow hhighu
    have hmiddle := hmono hlow huv hhigh
    have hlast := hmono hlowv hhigh (ordered_of_le hhigh).2.le_refl
    obtain ⟨a, ha, hmin, -⟩ := datum_of_le_of_le (hbottom datum_lowest) (hfull datum_highest)
      hfirst (trans_le hmiddle hlast)
    obtain ⟨b, hb, -, hmax⟩ := datum_of_le_of_le (hbottom datum_lowest) (hfull datum_highest)
      (trans_le hfirst hmiddle) hlast
    exact ⟨a, b, ha, hb, hmin, (le_iff ha hb).mp hmiddle, hmax⟩
  case full =>
    intro v hsame
    have hv := datum_of_same hsame datum_highest
    have hlow : lowest ≤ v := (le_iff datum_lowest hv).mpr (by norm_num)
    have hhigh : v ≤ highest := (le_iff hv datum_highest).mpr le_rfl
    rw [attenuate_of_audible c hlow hhigh, hvalue]
    exact hfull hv
  case bottom =>
    intro v hsame
    have hv := datum_of_same hsame datum_lowest
    have hlow : lowest ≤ v := (le_iff datum_lowest hv).mpr le_rfl
    have hhigh : v ≤ highest := (le_iff hv datum_highest).mpr (by norm_num)
    rw [attenuate_of_audible c hlow hhigh, hvalue]
    exact hbottom hv

end Hush.Volume
