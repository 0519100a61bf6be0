import Hush.Proofs.Log.Escapes
import Hush.Proofs.Text.Blank
import Mathlib.Data.Bool.AllAny

/-!
# Escape sequences are erased

A sequence begins at an escape character and goes on to the next letter, over further escape
characters, ends of lines and all else. Taking sequences out erases exactly these stretches: what
stands on either side of one is treated as if it stood alone, and a text without escape characters
stays as it is.
-/
namespace Hush.Log

/-- One of the letters `A` to `Z`, large or small. -/
def IsLetter (c : Char) : Prop := 'A' ≤ c ∧ c ≤ 'Z' ∨ 'a' ≤ c ∧ c ≤ 'z'

instance (c : Char) : Decidable (IsLetter c) := inferInstanceAs (Decidable (_ ∨ _))

theorem endsSequence_iff_isLetter (c : Char) : endsSequence c = true ↔ IsLetter c :=
  Text.isAlpha_iff c

theorem unended_of_no_letter {cs : List Char} (h : ∀ c ∈ cs, ¬ IsLetter c) :
    ∀ c ∈ cs, endsSequence c = false := by
  intro c hc
  rw [← Bool.not_eq_true, endsSequence_iff_isLetter]
  exact h c hc

/-! ### One sequence -/

-- The escape character begins a sequence even where the text in front of it is inside of another.
theorem stripFrom_open (inside : Bool) (a : List Char) {u : List Char}
    (hu : ∀ c ∈ u, endsSequence c = false) :
    stripFrom inside (a ++ escape :: u) = stripFrom inside a := by
  have hnothing : stripFrom (endsInside inside a) (escape :: u) = [] := by
    rw [stripFrom, if_pos rfl]
    exact stripFrom_of_unended hu
  rw [stripFrom_append, hnothing, List.append_nil]

theorem endsInside_open (inside : Bool) (a : List Char) {u : List Char}
    (hu : ∀ c ∈ u, endsSequence c = false) :
    endsInside inside (a ++ escape :: u) = true := by
  rw [endsInside_append, endsInside, if_pos rfl]
  exact endsInside_of_unended hu

theorem stripFrom_sequence (inside : Bool) (a b : List Char) {u : List Char} {c : Char}
    (hu : ∀ d ∈ u, endsSequence d = false) (hc : endsSequence c = true) :
    stripFrom inside (a ++ escape :: u ++ c :: b) = stripFrom inside a ++ stripFrom false b := by
  have hescape : c ≠ escape := by
    rintro rfl
    exact absurd hc (by decide)
  have hletter : stripFrom true (c :: b) = stripFrom false b := by
    simp [stripFrom, hescape, hc]
  rw [stripFrom_append, stripFrom_open inside a hu, endsInside_open inside a hu, hletter]

/-! ### What is left -/

theorem escape_not_mem_stripFrom (inside : Bool) (cs : List Char) :
    escape ∉ stripFrom inside cs := by
  induction cs generalizing inside with
  | nil => simp [stripFrom]
  | cons c cs ih =>
    by_cases hc : c = escape
    · simp [stripFrom, hc, ih]
    · cases inside with
      | true => simp [stripFrom, hc, ih]
      | false => simp [stripFrom, hc, Ne.symm hc, ih]

theorem stripFrom_sublist (inside : Bool) (cs : List Char) :
    (stripFrom inside cs).Sublist cs := by
  induction cs generalizing inside with
  | nil => exact List.Sublist.refl []
  | cons c cs ih =>
    by_cases hc : c = escape
    · rw [stripFrom, if_pos hc]
      exact (ih true).cons c
    · cases inside with
      | true =>
        rw [stripFrom, if_neg hc, if_pos rfl]
        exact (ih _).cons c
      | false =>
        rw [stripFrom, if_neg hc, if_neg Bool.false_ne_true]
        exact (ih false).cons_cons c

@[simp] theorem toList_strip (s : String) : (strip s).toList = stripFrom false s.toList := by
  rw [strip, String.toList_ofList]

theorem strip_of_not_mem {s : String} (h : escape ∉ s.toList) : strip s = s := by
  rw [strip, stripFrom_of_not_mem h, String.ofList_toList]

/-- Taking sequences out erases them and nothing else. A sequence goes from an escape character to
the next letter, or to the end of the text when no letter comes, whatever the text in front of it
ends in; the rest of the text is treated as if it stood alone, and a text without escape characters
is kept. So what is left has no escape character, has its characters in the order they had, and is
not changed by a second pass. -/
theorem sequences_are_erased :
    (∀ (a u b : String) (c : Char), (∀ d ∈ u.toList, ¬ IsLetter d) → IsLetter c →
      strip (a ++ String.singleton escape ++ u ++ String.singleton c ++ b) =
        strip a ++ strip b) ∧
    (∀ a u : String, (∀ d ∈ u.toList, ¬ IsLetter d) →
      strip (a ++ String.singleton escape ++ u) = strip a) ∧
    (∀ s : String, escape ∉ s.toList → strip s = s) ∧
    (∀ s : String, escape ∉ (strip s).toList ∧ (strip s).toList.Sublist s.toList ∧
      strip (strip s) = strip s) := by
  refine ⟨?_, ?_, fun s h => strip_of_not_mem h, ?_⟩
  · intro a u b c hu hc
    have hletter : endsSequence c = true := (endsSequence_iff_isLetter c).mpr hc
    apply String.toList_injective
    simpa using stripFrom_sequence false a.toList b.toList (unended_of_no_letter hu) hletter
  · intro a u hu
    apply String.toList_injective
    simpa using stripFrom_open false a.toList (unended_of_no_letter hu)
  · intro s
    have hnone : escape ∉ (strip s).toList := by
      rw [toList_strip]
      exact escape_not_mem_stripFrom false s.toList
    refine ⟨hnone, ?_, strip_of_not_mem hnone⟩
    rw [toList_strip]
    exact stripFrom_sublist false s.toList

/-- The text in front ends inside of a sequence, and the next one has a sequence of its own. -/
theorem sequences_are_erased_nested :
    let a := "one\x1b[3"
    let u := "[\x1b\n9;é"
    let b := "two\x1b[0m"
    (∀ d ∈ u.toList, ¬ IsLetter d) ∧ IsLetter 'K' ∧
      strip (a ++ String.singleton escape ++ u ++ String.singleton 'K' ++ b) =
        strip a ++ strip b ∧
      strip (a ++ String.singleton escape ++ u) = strip a ∧
      escape ∉ "one".toList ∧ strip "one" = "one" := by
  intro a u b
  have hu : ∀ d ∈ u.toList, ¬ IsLetter d := List.all_iff_forall_prop.mp (by decide)
  have hc : IsLetter 'K' := by decide
  have hplain : escape ∉ "one".toList := by decide
  obtain ⟨hsequence, hopen, hkept, -⟩ := sequences_are_erased
  exact ⟨hu, hc, hsequence a u b 'K' hu hc, hopen a u hu, hplain, hkept "one" hplain⟩

end Hush.Log
