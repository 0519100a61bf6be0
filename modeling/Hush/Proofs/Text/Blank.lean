import Hush.Text.Blank
import Mathlib.Data.List.Forall2
import Mathlib.Data.List.TakeWhile

/-!
# What is left between blanks, and letters in either case

The text between the blanks around another one is determined by where it stands and by its two
ends; trimming finds it. Folding the case of two texts makes them equal exactly when they agree
character by character, but that a letter from `A` to `Z` may be large in one and small in the other.
-/
namespace Hush.Text

variable {cs front core back : List Char}

/-! ### Trimming -/

/-- Nothing but blanks stands around a text, which has none at its ends. -/
structure IsCore (core whole : List Char) : Prop where
  around : ∃ front back, whole = front ++ core ++ back ∧
    (∀ c ∈ front, isBlank c = true) ∧ ∀ c ∈ back, isBlank c = true
  first : ∀ c, core.head? = some c → isBlank c = false
  last : ∀ c, core.getLast? = some c → isBlank c = false

theorem dropWhile_blank_append (hfront : ∀ c ∈ front, isBlank c = true)
    (hfirst : ∀ c, core.head? = some c → isBlank c = false) :
    (front ++ core).dropWhile isBlank = core := by
  rw [List.dropWhile_append_of_pos hfront]
  cases core with
  | nil => rfl
  | cons c core =>
    have hc : ¬ isBlank c = true := by simp [hfirst c rfl]
    rw [List.dropWhile_cons_of_neg hc]

theorem trim_append (hfront : ∀ c ∈ front, isBlank c = true)
    (hback : ∀ c ∈ back, isBlank c = true)
    (hfirst : ∀ c, core.head? = some c → isBlank c = false)
    (hlast : ∀ c, core.getLast? = some c → isBlank c = false) :
    trim (front ++ core ++ back) = core := by
  cases hcore : core with
  | nil =>
    have hall : ∀ c ∈ front ++ back, isBlank c = true := by
      intro c hc
      rcases List.mem_append.mp hc with hc | hc
      · exact hfront c hc
      · exact hback c hc
    simp [trim, List.dropWhile_eq_nil_iff.mpr hall]
  | cons c rest =>
    rw [← hcore]
    have hfirst' : ∀ d, (core ++ back).head? = some d → isBlank d = false := by
      intro d hd
      rw [hcore] at hd
      exact hfirst d (by rw [hcore]; exact hd)
    have hback' : ∀ d ∈ back.reverse, isBlank d = true := by simpa using hback
    have hlast' : ∀ d, core.reverse.head? = some d → isBlank d = false := by simpa using hlast
    rw [trim, List.append_assoc, dropWhile_blank_append hfront hfirst', List.reverse_append,
      dropWhile_blank_append hback' hlast', List.reverse_reverse]

theorem isBlank_of_head?_dropWhile {c : Char} (h : (cs.dropWhile isBlank).head? = some c) :
    isBlank c = false := by
  have hnot := List.head?_dropWhile_not isBlank cs
  rw [h] at hnot
  exact hnot

theorem isCore_trim (cs : List Char) : IsCore (trim cs) cs := by
  have hfront : cs = cs.takeWhile isBlank ++ cs.dropWhile isBlank :=
    (List.takeWhile_append_dropWhile).symm
  generalize hrest : cs.dropWhile isBlank = rest at hfront
  have hback : rest = trim cs ++ (rest.reverse.takeWhile isBlank).reverse := by
    rw [trim, hrest, ← List.reverse_append, List.takeWhile_append_dropWhile, List.reverse_reverse]
  constructor
  case around =>
    refine ⟨cs.takeWhile isBlank, (rest.reverse.takeWhile isBlank).reverse, ?_, ?_, ?_⟩
    · rw [List.append_assoc, ← hback]
      exact hfront
    · exact fun c hc => List.mem_takeWhile_imp hc
    · exact fun c hc => List.mem_takeWhile_imp (List.mem_reverse.mp hc)
  case first =>
    intro c hc
    have hhead : rest.head? = some c := by rw [hback, List.head?_append, hc, Option.some_or]
    rw [← hrest] at hhead
    exact isBlank_of_head?_dropWhile hhead
  case last =>
    intro c hc
    rw [trim, List.getLast?_reverse] at hc
    exact isBlank_of_head?_dropWhile hc

/-- There is one text between the blanks, and trimming finds it. -/
theorem isCore_iff (core whole : List Char) : IsCore core whole ↔ core = trim whole := by
  constructor
  · rintro ⟨⟨front, back, rfl, hfront, hback⟩, hfirst, hlast⟩
    exact (trim_append hfront hback hfirst hlast).symm
  · rintro rfl
    exact isCore_trim whole

/-! ### Letters -/

theorem le_iff_toNat_le (c d : Char) : c ≤ d ↔ c.toNat ≤ d.toNat := by
  simp [Char.le_def, UInt32.le_iff_toNat_le]

theorem isAlpha_iff (c : Char) : c.isAlpha = true ↔ 'A' ≤ c ∧ c ≤ 'Z' ∨ 'a' ≤ c ∧ c ≤ 'z' := by
  have hletter : c.isAlpha =
      (decide ('A' ≤ c ∧ c ≤ 'Z') || (decide ('a' ≤ c) && decide (c ≤ 'z'))) := rfl
  rw [hletter, Bool.or_eq_true, Bool.and_eq_true]
  simp only [decide_eq_true_iff]

/-! ### Case -/

/-- The same character, or the large and the small form of one of the letters `A` to `Z`. -/
def SameLetter (c d : Char) : Prop :=
  c = d ∨ ('A' ≤ c ∧ c ≤ 'Z' ∧ d.toNat = c.toNat + 32) ∨
    ('A' ≤ d ∧ d ≤ 'Z' ∧ c.toNat = d.toNat + 32)

/-- Equal character by character, up to the case of the letters `A` to `Z`. -/
def SameUpToCase (s t : String) : Prop := List.Forall₂ SameLetter s.toList t.toList

theorem toNat_toLower (c : Char) :
    c.toLower.toNat = if 65 ≤ c.toNat ∧ c.toNat ≤ 90 then c.toNat + 32 else c.toNat := by
  have hlarge : (c.val ≥ 'A'.val ∧ c.val ≤ 'Z'.val) ↔ 65 ≤ c.toNat ∧ c.toNat ≤ 90 := by
    simp [UInt32.le_iff_toNat_le]
  unfold Char.toLower
  split
  next h =>
    have hbound := hlarge.mp h
    rw [if_pos hbound]
    show (c.val + 32).toNat = c.toNat + 32
    rw [UInt32.toNat_add]
    exact Nat.mod_eq_of_lt (by simp; omega)
  next h => rw [if_neg (mt hlarge.mpr h)]

theorem toLower_eq_iff (c d : Char) : c.toLower = d.toLower ↔ SameLetter c d := by
  have hA : 'A'.toNat = 65 := rfl
  have hZ : 'Z'.toNat = 90 := rfl
  rw [SameLetter, ← Char.toNat_inj, ← Char.toNat_inj, toNat_toLower, toNat_toLower]
  simp only [le_iff_toNat_le, hA, hZ]
  split_ifs <;> omega

theorem exists_sameLetter_of_mem {cs ds : List Char} (h : List.Forall₂ SameLetter cs ds) {c : Char}
    (hc : c ∈ cs) : ∃ d ∈ ds, SameLetter c d := by
  induction h with
  | nil => simp at hc
  | @cons e d cs ds hed _ ih =>
    rcases List.mem_cons.mp hc with rfl | hc
    · exact ⟨d, List.mem_cons_self, hed⟩
    · obtain ⟨d', hd', hcd'⟩ := ih hc
      exact ⟨d', List.mem_cons_of_mem d hd', hcd'⟩

theorem equalUpToCase_iff_same (s t : String) :
    equalUpToCase s t = true ↔ SameUpToCase s t := by
  have hfold : (fun c d : Char => c.toLower = d.toLower) = SameLetter :=
    funext fun c => funext fun d => propext (toLower_eq_iff c d)
  rw [equalUpToCase_iff, foldCase, foldCase, SameUpToCase, ← hfold, ← List.forall₂_eq_eq_eq,
    List.forall₂_map_left_iff, List.forall₂_map_right_iff]

instance (s t : String) : Decidable (SameUpToCase s t) :=
  decidable_of_iff _ (equalUpToCase_iff_same s t)

end Hush.Text
