import Hush.Log.Escape

/-!
# Where escape sequences end

Taking sequences out of a text goes on, behind any part of it, from whether that part ends inside of
one. A text ends inside of a sequence exactly when no letter comes behind some escape character.
-/
namespace Hush.Log

/-- Whether a text ends in a sequence; `inside` says whether it begins in one. -/
def endsInside : (inside : Bool) → List Char → Bool
  | inside, [] => inside
  | inside, c :: cs =>
    if c = escape then endsInside true cs
    else if inside then endsInside (!endsSequence c) cs
    else endsInside false cs

theorem stripFrom_append (inside : Bool) (a b : List Char) :
    stripFrom inside (a ++ b) = stripFrom inside a ++ stripFrom (endsInside inside a) b := by
  induction a generalizing inside with
  | nil => cases b <;> rfl
  | cons c a ih =>
    by_cases hc : c = escape
    · simp [stripFrom, endsInside, hc, ih]
    · cases inside with
      | false => simp [stripFrom, endsInside, hc, ih]
      | true => simp [stripFrom, endsInside, hc, ih]

theorem endsInside_append (inside : Bool) (a b : List Char) :
    endsInside inside (a ++ b) = endsInside (endsInside inside a) b := by
  induction a generalizing inside with
  | nil => rfl
  | cons c a ih =>
    by_cases hc : c = escape
    · simp [endsInside, hc, ih]
    · cases inside with
      | false => simp [endsInside, hc, ih]
      | true => simp [endsInside, hc, ih]

/-- A sequence begins in the text that no letter ends. -/
def LeavesOpen (cs : List Char) : Prop :=
  ∃ front rest, cs = front ++ escape :: rest ∧ ∀ c ∈ rest, endsSequence c = false

theorem leavesOpen_cons (c : Char) (cs : List Char) :
    LeavesOpen (c :: cs) ↔
      (c = escape ∧ ∀ d ∈ cs, endsSequence d = false) ∨ LeavesOpen cs := by
  constructor
  · rintro ⟨front, rest, hcs, hrest⟩
    cases front with
    | nil =>
      cases hcs
      exact Or.inl ⟨rfl, hrest⟩
    | cons d front =>
      cases hcs
      exact Or.inr ⟨front, rest, rfl, hrest⟩
  · rintro (⟨rfl, hrest⟩ | ⟨front, rest, rfl, hrest⟩)
    · exact ⟨[], cs, rfl, hrest⟩
    · exact ⟨c :: front, rest, rfl, hrest⟩

-- A text that begins in a sequence may also end in that one, which no letter of the text ends then.
theorem endsInside_eq_true_iff (inside : Bool) (cs : List Char) :
    endsInside inside cs = true ↔
      (inside = true ∧ ∀ c ∈ cs, endsSequence c = false) ∨ LeavesOpen cs := by
  induction cs generalizing inside with
  | nil => simp [endsInside, LeavesOpen]
  | cons c cs ih =>
    rw [leavesOpen_cons]
    by_cases hc : c = escape
    · subst hc
      have hletter : endsSequence escape = false := by decide
      have hnext : endsInside inside (escape :: cs) = endsInside true cs := by simp [endsInside]
      rw [hnext, ih true, List.forall_mem_cons]
      constructor
      · rintro (⟨-, hcs⟩ | hopen)
        · exact Or.inr (Or.inl ⟨rfl, hcs⟩)
        · exact Or.inr (Or.inr hopen)
      · rintro (⟨-, -, hcs⟩ | ⟨-, hcs⟩ | hopen)
        · exact Or.inl ⟨rfl, hcs⟩
        · exact Or.inl ⟨rfl, hcs⟩
        · exact Or.inr hopen
    · cases inside with
      | false => simp [endsInside, hc, ih]
      | true => simp [endsInside, hc, ih]

theorem endsInside_iff_leavesOpen (cs : List Char) :
    endsInside false cs = true ↔ LeavesOpen cs := by
  simp [endsInside_eq_true_iff]

/-! ### Texts that a sequence does not end in, and texts without any -/

variable {cs : List Char}

theorem endsInside_of_unended (h : ∀ c ∈ cs, endsSequence c = false) :
    endsInside true cs = true :=
  (endsInside_eq_true_iff true cs).mpr (Or.inl ⟨rfl, h⟩)

theorem stripFrom_of_unended (h : ∀ c ∈ cs, endsSequence c = false) : stripFrom true cs = [] := by
  induction cs with
  | nil => rfl
  | cons c cs ih =>
    obtain ⟨hc, hcs⟩ := List.forall_mem_cons.mp h
    simp [stripFrom, hc, ih hcs]

theorem endsInside_of_not_mem (h : escape ∉ cs) : endsInside false cs = false := by
  rw [← Bool.not_eq_true, endsInside_iff_leavesOpen]
  rintro ⟨front, rest, rfl, -⟩
  exact h (List.mem_append_right front List.mem_cons_self)

theorem stripFrom_of_not_mem (h : escape ∉ cs) : stripFrom false cs = cs := by
  induction cs with
  | nil => rfl
  | cons c cs ih =>
    rw [List.mem_cons, not_or] at h
    rw [stripFrom, if_neg (Ne.symm h.1), if_neg Bool.false_ne_true, ih h.2]

end Hush.Log
