import Hush.Format
import Hush.Proofs.Text.Blank
import Mathlib.Data.Bool.AllAny
import Mathlib.Data.List.Nodup

/-!
# Names of formats

A format is asked for by its name, in any mixture of large and small letters and with blanks around
it. No two names differ in case alone, so the order in which formats are tried does not matter: what
is asked for is one format or none.
-/
namespace Hush.Format
open Text (SameUpToCase isBlank)

variable {f g : Format} {s t : String}

/-- The characters of names: letters from `A` to `Z` in either case, digits and the underscore. -/
def IsNameCharacter (c : Char) : Prop := c.isAlphanum = true ∨ c = '_'

instance (c : Char) : Decidable (IsNameCharacter c) := inferInstanceAs (Decidable (_ ∨ _))

theorem isNameCharacter_of_mem_name (f : Format) : ∀ c ∈ f.name.toList, IsNameCharacter c := by
  have hall : f.name.toList.all (IsNameCharacter ·) = true := by cases f <;> decide
  exact List.all_iff_forall_prop.mp hall

theorem nodup_foldedNames : (all.map fun f => Text.foldCase f.name.toList).Nodup := by decide

theorem eq_of_foldCase_name_eq
    (h : Text.foldCase f.name.toList = Text.foldCase g.name.toList) : f = g :=
  List.inj_on_of_nodup_map nodup_foldedNames (mem_all f) (mem_all g) h

/-- A text is the name of one format at most. -/
theorem eq_of_same_name (hf : SameUpToCase t f.name) (hg : SameUpToCase t g.name) : f = g := by
  rw [← Text.equalUpToCase_iff_same, Text.equalUpToCase_iff] at hf hg
  exact eq_of_foldCase_name_eq (hf.symm.trans hg)

/-! ### Parsing -/

theorem equalUpToCase_name_iff (f : Format) (t : String) :
    Text.equalUpToCase f.name t = true ↔ SameUpToCase t f.name := by
  rw [← Text.equalUpToCase_iff_same, Text.equalUpToCase_iff, Text.equalUpToCase_iff, eq_comm]

theorem parse_of_same (h : SameUpToCase (Text.trimmed s) f.name) : parse s = .ok f := by
  have hmatches := (equalUpToCase_name_iff f _).mpr h
  have hfound : all.find? (fun g => Text.equalUpToCase g.name (Text.trimmed s)) = some f := by
    cases hfind : all.find? (fun g => Text.equalUpToCase g.name (Text.trimmed s)) with
    | none =>
      rw [List.find?_eq_none] at hfind
      exact absurd hmatches (hfind f (mem_all f))
    | some g =>
      -- The first format that matches is the only one.
      have hg := List.find?_some hfind
      rw [equalUpToCase_name_iff] at hg
      rw [eq_of_same_name hg h]
  unfold parse
  dsimp only
  rw [hfound]

theorem parse_of_not_same (h : ∀ f : Format, ¬ SameUpToCase (Text.trimmed s) f.name) :
    parse s = .error ⟨Text.trimmed s⟩ := by
  have hnone : all.find? (fun f => Text.equalUpToCase f.name (Text.trimmed s)) = none := by
    refine List.find?_eq_none.mpr fun f _ => ?_
    rw [equalUpToCase_name_iff]
    exact h f
  unfold parse
  dsimp only
  rw [hnone]

theorem parse_eq_ok_iff (s : String) (f : Format) :
    parse s = .ok f ↔ SameUpToCase (Text.trimmed s) f.name := by
  constructor
  · intro hok
    by_cases hsome : ∃ g : Format, SameUpToCase (Text.trimmed s) g.name
    · obtain ⟨g, hg⟩ := hsome
      rw [parse_of_same hg] at hok
      cases hok
      exact hg
    · rw [parse_of_not_same (not_exists.mp hsome)] at hok
      cases hok
  · exact parse_of_same

theorem parse_eq_error_iff (s : String) (e : Unrecognised) :
    parse s = .error e ↔
      e = ⟨Text.trimmed s⟩ ∧ ∀ f : Format, ¬ SameUpToCase (Text.trimmed s) f.name := by
  constructor
  · intro herror
    have hnone : ∀ f : Format, ¬ SameUpToCase (Text.trimmed s) f.name := by
      intro f hf
      rw [parse_of_same hf] at herror
      cases herror
    rw [parse_of_not_same hnone] at herror
    cases herror
    exact ⟨rfl, hnone⟩
  · rintro ⟨rfl, hnone⟩
    exact parse_of_not_same hnone

/-! ### Blanks and name characters -/

theorem isNameCharacter_iff (c : Char) :
    IsNameCharacter c ↔ (48 ≤ c.toNat ∧ c.toNat ≤ 57) ∨ (65 ≤ c.toNat ∧ c.toNat ≤ 90) ∨
      (97 ≤ c.toNat ∧ c.toNat ≤ 122) ∨ c.toNat = 95 := by
  have hunderscore : c = '_' ↔ c.toNat = 95 := Char.toNat_inj.symm
  have hdigit : c.isDigit = true ↔ 48 ≤ c.toNat ∧ c.toNat ≤ 57 := by
    simp [Char.isDigit, UInt32.le_iff_toNat_le]
  have halphanum : c.isAlphanum = (c.isAlpha || c.isDigit) := rfl
  have hends : 'A'.toNat = 65 ∧ 'Z'.toNat = 90 ∧ 'a'.toNat = 97 ∧ 'z'.toNat = 122 := by decide
  rw [IsNameCharacter, halphanum, Bool.or_eq_true, Text.isAlpha_iff, hdigit, hunderscore]
  simp only [Text.le_iff_toNat_le, hends]
  omega

theorem isNameCharacter_of_sameLetter {c d : Char} (h : Text.SameLetter c d)
    (hd : IsNameCharacter d) : IsNameCharacter c := by
  have hA : 'A'.toNat = 65 := rfl
  have hZ : 'Z'.toNat = 90 := rfl
  rw [isNameCharacter_iff] at hd ⊢
  rw [Text.SameLetter, ← Char.toNat_inj] at h
  simp only [Text.le_iff_toNat_le, hA, hZ] at h
  omega

theorem isNameCharacter_of_same (h : SameUpToCase t f.name) : ∀ c ∈ t.toList, IsNameCharacter c := by
  intro c hc
  obtain ⟨d, hd, hcd⟩ := Text.exists_sameLetter_of_mem h hc
  exact isNameCharacter_of_sameLetter hcd (isNameCharacter_of_mem_name f d hd)

theorem isBlank_of_isNameCharacter {c : Char} (h : IsNameCharacter c) : isBlank c = false := by
  rw [isNameCharacter_iff] at h
  simp only [isBlank, Bool.or_eq_false_iff, Bool.and_eq_false_iff, decide_eq_false_iff_not,
    beq_eq_false_iff_ne]
  omega

/-- A name in either case has no blanks, so it is the text between the blanks around it. -/
theorem trimmed_of_same (h : SameUpToCase t f.name) (front back : String)
    (hfront : ∀ c ∈ front.toList, isBlank c = true) (hback : ∀ c ∈ back.toList, isBlank c = true) :
    Text.trimmed (front ++ t ++ back) = t := by
  have hsolid : ∀ c ∈ t.toList, isBlank c = false := fun c hc =>
    isBlank_of_isNameCharacter (isNameCharacter_of_same h c hc)
  have htrim : Text.trim (front.toList ++ t.toList ++ back.toList) = t.toList :=
    Text.trim_append hfront hback (fun c hc => hsolid c (List.mem_of_head? hc))
      fun c hc => hsolid c (List.mem_of_getLast? hc)
  rw [Text.trimmed, String.toList_append, String.toList_append, htrim, String.ofList_toList]

theorem parse_between (h : SameUpToCase t f.name) (front back : String)
    (hfront : ∀ c ∈ front.toList, isBlank c = true) (hback : ∀ c ∈ back.toList, isBlank c = true) :
    parse (front ++ t ++ back) = .ok f := by
  rw [parse_eq_ok_iff, trimmed_of_same h front back hfront hback]
  exact h

theorem same_name (f : Format) : SameUpToCase f.name f.name := by
  rw [← equalUpToCase_name_iff, Text.equalUpToCase_iff]

/-- The name of a format stands for it. -/
@[simp] theorem parse_name (f : Format) : parse f.name = .ok f := by
  have hbetween := parse_between (same_name f) "" "" (by simp) (by simp)
  rwa [String.empty_append, String.append_empty] at hbetween

/-- Names are parsed exactly. Any text has one text between the blanks around it. That is the name
of a format, up to the case of the letters `A` to `Z` and to nothing else, when the whole text is
parsed as the format, and otherwise it is refused as it is spelled; names have no blanks and no
characters beyond ASCII. No text is the name of two formats. So every way to write a name is parsed,
with any blanks around it, and parsing the name of what was parsed changes nothing. -/
theorem names_are_parsed_exactly :
    (∀ s t : String, Text.IsCore t.toList s.toList →
      (∀ f, parse s = .ok f ↔ SameUpToCase t f.name) ∧
      (∀ e, parse s = .error e ↔ e = ⟨t⟩ ∧ ∀ f : Format, ¬ SameUpToCase t f.name) ∧
      ∀ f, parse s = .ok f → ∀ c ∈ t.toList, IsNameCharacter c) ∧
    (∀ s : String, ∃! t : String, Text.IsCore t.toList s.toList) ∧
    (∀ (t : String) (f g : Format), SameUpToCase t f.name → SameUpToCase t g.name → f = g) ∧
    (∀ (f : Format) (t front back : String), SameUpToCase t f.name →
      (∀ c ∈ front.toList, isBlank c = true) → (∀ c ∈ back.toList, isBlank c = true) →
      parse (front ++ t ++ back) = .ok f) ∧
    ∀ s : String, ((parse s).bind fun f => parse f.name) = parse s := by
  have hcore : ∀ s t : String, Text.IsCore t.toList s.toList ↔ t = Text.trimmed s := by
    intro s t
    rw [Text.isCore_iff, Text.trimmed, ← String.toList_inj, String.toList_ofList]
  refine ⟨?_, ?_, fun t f g hf hg => eq_of_same_name hf hg,
    fun f t front back h => parse_between h front back, ?_⟩
  · intro s t ht
    rw [hcore] at ht
    subst ht
    refine ⟨parse_eq_ok_iff s, parse_eq_error_iff s, ?_⟩
    intro f hf
    exact isNameCharacter_of_same ((parse_eq_ok_iff s f).mp hf)
  · intro s
    exact ⟨Text.trimmed s, (hcore s _).mpr rfl, fun t ht => (hcore s t).mp ht⟩
  · intro s
    cases hs : parse s with
    | error e => rfl
    | ok f =>
      dsimp only [Except.bind]
      exact parse_name f

/-- Names that begin alike are told apart, and a long s is no letter of a name. -/
theorem names_are_parsed_exactly_padded :
    Text.IsCore "s24_3Le".toList "\u2003\t s24_3Le\n".toList ∧
      parse "\u2003\t s24_3Le\n" = .ok .s24le3 ∧
      Text.IsCore "\u017f24".toList " \u017f24".toList ∧
      parse " \u017f24" = .error ⟨"\u017f24"⟩ ∧
      SameUpToCase "AuTo" auto.name ∧ parse (" " ++ "AuTo" ++ "\u3000") = .ok auto := by
  obtain ⟨hparse, -, -, hbetween, -⟩ := names_are_parsed_exactly
  have hcore : Text.IsCore "s24_3Le".toList "\u2003\t s24_3Le\n".toList := by
    rw [Text.isCore_iff]
    decide
  have hcore' : Text.IsCore "\u017f24".toList " \u017f24".toList := by
    rw [Text.isCore_iff]
    decide
  have hname : SameUpToCase "AuTo" auto.name := by decide
  refine ⟨hcore, ?_, hcore', ?_, hname, ?_⟩
  · exact ((hparse _ _ hcore).1 s24le3).mpr (by decide)
  · refine ((hparse _ _ hcore').2.1 _).mpr ⟨rfl, ?_⟩
    intro f
    cases f <;> decide
  · exact hbetween auto "AuTo" " " "\u3000" hname (List.all_eq_true.mp rfl)
      (List.all_eq_true.mp rfl)

end Hush.Format
