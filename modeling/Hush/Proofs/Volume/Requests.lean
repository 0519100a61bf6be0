import Hush.Proofs.Volume.StandardCurve
import Hush.Proofs.Volume.TaperedCurve

/-!
# Requests and reports

Whether a pattern is a request is settled by what it stands for: a number on the travel is audible,
both zeros with it, the number -144 is muted, and all else is refused, infinities and what is no
number among it. A request has one pattern, so it is sent back as it came. The request settles what a
curve reports. Silence makes no report, a refused volume one, and an audible volume none, but for the
taper that may say that the straight line was louder. The bounds play no part in it.
-/
namespace Hush.Volume

open Binary64

/-! ### Requests -/

/-- The pattern is a number from the lowest to the highest volume. -/
def OnTravel (raw : Binary64) : Prop := ∃ q : Rat, raw.datum = .number q ∧ -30 ≤ q ∧ q ≤ 0

/-- The pattern is the number that is sent for silence. -/
def IsMute (raw : Binary64) : Prop := raw.datum = .number (-144)

variable {raw : Binary64}

theorem onTravel_iff : OnTravel raw ↔ lowest ≤ raw ∧ raw ≤ highest := by
  constructor
  · rintro ⟨q, hraw, hlow, hhigh⟩
    exact ⟨(le_iff datum_lowest hraw).mpr hlow, (le_iff hraw datum_highest).mpr hhigh⟩
  · rintro ⟨hlow, hhigh⟩
    exact datum_of_audible hlow hhigh

theorem isMute_iff : IsMute raw ↔ Same raw mutedWire := by
  constructor
  · intro hraw
    rw [IsMute] at hraw
    rw [Same, hraw, datum_mutedWire]
  · intro hsame
    exact datum_of_same hsame datum_mutedWire

theorem IsMute.eq_mutedWire (h : IsMute raw) : raw = mutedWire :=
  eq_of_datum h datum_mutedWire (by norm_num)

theorem IsMute.not_onTravel (h : IsMute raw) : ¬ OnTravel raw := by
  rintro ⟨q, hraw, hlow, -⟩
  cases hraw.symm.trans h
  norm_num at hlow

theorem ofWire_of_onTravel (h : OnTravel raw) : Request.ofWire raw = .ok (.audible raw) :=
  if_pos (onTravel_iff.mp h)

theorem ofWire_of_isMute (h : IsMute raw) : Request.ofWire raw = .ok .muted := ofWire_of_muted h

theorem ofWire_of_refused (htravel : ¬ OnTravel raw) (hmute : ¬ IsMute raw) :
    Request.ofWire raw = .error ⟨raw⟩ := by
  rw [onTravel_iff] at htravel
  rw [isMute_iff] at hmute
  rw [Request.ofWire, if_neg htravel, if_neg hmute]

/-- What is asked for tells what the pattern stands for, and is sent as the same pattern. -/
theorem ofWire_cases (raw : Binary64) :
    (OnTravel raw ∧ Request.ofWire raw = .ok (.audible raw)) ∨
      (IsMute raw ∧ ¬ OnTravel raw ∧ Request.ofWire raw = .ok .muted) ∨
      (¬ OnTravel raw ∧ ¬ IsMute raw ∧ Request.ofWire raw = .error ⟨raw⟩) := by
  by_cases htravel : OnTravel raw
  · exact Or.inl ⟨htravel, ofWire_of_onTravel htravel⟩
  · by_cases hmute : IsMute raw
    · exact Or.inr (Or.inl ⟨hmute, htravel, ofWire_of_isMute hmute⟩)
    · exact Or.inr (Or.inr ⟨htravel, hmute, ofWire_of_refused htravel hmute⟩)

theorem ofWire_eq_audible_iff : Request.ofWire raw = .ok (.audible raw) ↔ OnTravel raw := by
  rcases ofWire_cases raw with ⟨h, heq⟩ | ⟨-, h, heq⟩ | ⟨h, -, heq⟩ <;> simp [h, heq]

theorem ofWire_eq_muted_iff : Request.ofWire raw = .ok .muted ↔ IsMute raw := by
  rcases ofWire_cases raw with ⟨h, heq⟩ | ⟨h, -, heq⟩ | ⟨-, h, heq⟩
  · have hnot : ¬ IsMute raw := fun hmute => hmute.not_onTravel h
    simp [hnot, heq]
  · simp [h, heq]
  · simp [h, heq]

theorem ofWire_eq_error_iff :
    Request.ofWire raw = .error ⟨raw⟩ ↔ ¬ OnTravel raw ∧ ¬ IsMute raw := by
  rcases ofWire_cases raw with ⟨h, heq⟩ | ⟨h, -, heq⟩ | ⟨h, hmute, heq⟩ <;> simp [*]

theorem toWire_of_ofWire {r : Request} (h : Request.ofWire raw = .ok r) : r.toWire = raw := by
  rcases ofWire_cases raw with ⟨-, heq⟩ | ⟨hmute, -, heq⟩ | ⟨-, -, heq⟩
  · cases heq.symm.trans h
    rfl
  · cases heq.symm.trans h
    exact hmute.eq_mutedWire.symm
  · cases heq.symm.trans h

theorem ofWire_of_magnitude_eq_zero (h : raw.magnitude = 0) :
    Request.ofWire raw = .ok (.audible raw) := by
  have hzero := ofMagnitude_self raw
  rw [h] at hzero
  rw [← hzero]
  exact ofWire_zero raw.isNegative

/-- A pattern without a sign is no request unless it is zero. -/
theorem ofWire_of_positive (hsign : raw.isNegative = false) (h : raw.magnitude ≠ 0) :
    Request.ofWire raw = .error ⟨raw⟩ := by
  have hpos : ∀ q, raw.datum = .number q → 0 < q := by
    intro q hraw
    obtain ⟨-, hvalue⟩ := datum_eq_number hraw
    rw [hsign] at hvalue
    refine lt_of_le_of_ne (hvalue ▸ ofUnits_false_nonneg _) fun hzero => h ?_
    exact magnitude_eq_of_abs_eq (hzero ▸ hraw) datum_zero rfl
  refine ofWire_of_refused ?_ ?_
  · rintro ⟨q, hraw, -, hhigh⟩
    exact (hpos q hraw).not_ge hhigh
  · intro hmute
    exact absurd (hpos _ hmute) (by norm_num)

/-! ### Reports -/

/-- The curves and where each of them reports from. -/
def homes (log2 : Binary64 → Binary64) : List (Curve × String) :=
  [(segmented, "rustair::audio::volume::segmented"), (flat, "rustair::audio::volume::flat"),
    (taperedWith log2, "rustair::audio::volume::tapered")]

variable {c : Curve} {home : String} {log2 : Binary64 → Binary64} {maxDb minDb : Int64}

theorem target_of_mem_homes (h : (c, home) ∈ homes log2) : c.target = home := by
  simp only [homes, List.mem_cons, Prod.mk.injEq, List.not_mem_nil, or_false] at h
  rcases h with ⟨rfl, rfl⟩ | ⟨rfl, rfl⟩ | ⟨rfl, rfl⟩ <;> rfl

theorem attenuate_of_isMute (c : Curve) (h : IsMute raw) :
    c.attenuate raw maxDb minDb = ⟨decibels minDb, []⟩ := by
  rw [h.eq_mutedWire, attenuate_mutedWire]

theorem attenuate_of_refused (c : Curve) (htravel : ¬ OnTravel raw) (hmute : ¬ IsMute raw) :
    c.attenuate raw maxDb minDb =
      ⟨decibels minDb, [.plain .debug c.target
        s!"{c.title} volume curve: {OutOfRange.message ⟨raw⟩}"]⟩ := by
  unfold Curve.attenuate
  rw [ofWire_of_refused htravel hmute]

theorem attenuate_of_onTravel (c : Curve) (h : OnTravel raw) :
    c.attenuate raw maxDb minDb = c.audible raw maxDb minDb := by
  obtain ⟨hlow, hhigh⟩ := onTravel_iff.mp h
  exact attenuate_of_audible c hlow hhigh maxDb minDb

theorem level_of_taperedReading {e : Log.Event} (log2 : Binary64 → Binary64)
    (he : e ∈ (taperedReading log2 raw maxDb minDb).events) : e.level = .trace := by
  rw [taperedReading_eq] at he
  split at he
  · cases he
  · split at he
    · rw [List.mem_singleton.mp he]
      rfl
    · cases he

/-- Only the taper reports on its way to a value, and no more than a trace. -/
theorem level_of_audible {e : Log.Event} (hc : (c, home) ∈ homes log2)
    (he : e ∈ (c.audible raw maxDb minDb).events) : e.level = .trace := by
  simp only [homes, List.mem_cons, Prod.mk.injEq, List.not_mem_nil, or_false] at hc
  rcases hc with ⟨rfl, -⟩ | ⟨rfl, -⟩ | ⟨rfl, -⟩
  · cases he
  · cases he
  · rw [audible_taperedWith] at he
    exact level_of_taperedReading log2 he

/-- Every pattern is a request or refused by what it stands for, and a request is sent as it came.
Whatever the bounds are, each curve gives the lower one to a muted volume in silence and to a refused
volume with one report of its own; at an audible volume no report says that it was refused, and only
the taper makes any report there. The lower bound is given as the pattern nearest to it. -/
theorem requests_and_reports_by_pattern (raw : Binary64) (log2 : Binary64 → Binary64)
    (maxDb minDb : Int64) :
    (Request.ofWire raw = .ok (.audible raw) ↔ OnTravel raw) ∧
    (Request.ofWire raw = .ok .muted ↔ IsMute raw) ∧
    (Request.ofWire raw = .error ⟨raw⟩ ↔ ¬ OnTravel raw ∧ ¬ IsMute raw) ∧
    (∀ r, Request.ofWire raw = .ok r → r.toWire = raw) ∧
    (raw.magnitude = 0 → Request.ofWire raw = .ok (.audible raw)) ∧
    (raw.isNegative = false → raw.magnitude ≠ 0 → Request.ofWire raw = .error ⟨raw⟩) ∧
    (∀ c home, (c, home) ∈ homes log2 →
      (IsMute raw → c.attenuate raw maxDb minDb = ⟨decibels minDb, []⟩) ∧
      (¬ OnTravel raw → ¬ IsMute raw → ∃ e, c.attenuate raw maxDb minDb = ⟨decibels minDb, [e]⟩ ∧
        e.level = .debug ∧ e.target = home) ∧
      (OnTravel raw → ∀ e ∈ (c.attenuate raw maxDb minDb).events, e.level ≠ .debug)) ∧
    (OnTravel raw → (segmented.attenuate raw maxDb minDb).events = [] ∧
      (flat.attenuate raw maxDb minDb).events = []) ∧
    standardReading raw maxDb minDb = .ok (segmented.attenuate raw maxDb minDb) ∧
    (decibels minDb).datum = .number (rounded minDb.toInt) := by
  refine ⟨ofWire_eq_audible_iff, ofWire_eq_muted_iff, ofWire_eq_error_iff,
    fun _ => toWire_of_ofWire, ofWire_of_magnitude_eq_zero, ofWire_of_positive, ?curves, ?quiet,
    standardReading_eq_ok raw maxDb minDb, datum_decibels minDb⟩
  case curves =>
    intro c home hc
    refine ⟨attenuate_of_isMute c, ?_, ?_⟩
    · intro htravel hmute
      exact ⟨_, attenuate_of_refused c htravel hmute, rfl, target_of_mem_homes hc⟩
    · intro htravel e he
      rw [attenuate_of_onTravel c htravel] at he
      rw [level_of_audible hc he]
      decide
  case quiet =>
    intro htravel
    rw [attenuate_of_onTravel segmented htravel, attenuate_of_onTravel flat htravel]
    exact ⟨rfl, rfl⟩

/-- The smallest positive pattern is refused, also with bounds in the wrong order. -/
theorem requests_and_reports_by_pattern_subnormal :
    let raw := ofMagnitude false 1
    raw.isNegative = false ∧ raw.magnitude ≠ 0 ∧ Request.ofWire raw = .error ⟨raw⟩ ∧
      (tapered, "rustair::audio::volume::tapered") ∈ homes Binary64.log2 ∧ ¬ OnTravel raw ∧
      ¬ IsMute raw ∧ ∃ e, tapered.attenuate raw (-6000) 0 = ⟨decibels 0, [e]⟩ ∧
        e.level = .debug ∧ e.target = "rustair::audio::volume::tapered" := by
  intro raw
  have hsign : raw.isNegative = false := by decide +kernel
  have hmagnitude : raw.magnitude ≠ 0 := by decide +kernel
  have hmem : (tapered, "rustair::audio::volume::tapered") ∈ homes Binary64.log2 := by
    simp [homes, tapered]
  obtain ⟨-, -, hrefused, -, -, hpositive, hcurves, -⟩ :=
    requests_and_reports_by_pattern raw Binary64.log2 (-6000) 0
  have herror := hpositive hsign hmagnitude
  obtain ⟨htravel, hmute⟩ := hrefused.mp herror
  obtain ⟨-, hreport, -⟩ := hcurves tapered "rustair::audio::volume::tapered" hmem
  exact ⟨hsign, hmagnitude, herror, hmem, htravel, hmute, hreport htravel hmute⟩

end Hush.Volume
