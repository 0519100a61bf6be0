import Hush.Text.Utf8

/-!
# Joining and cutting texts

Bytes of texts joined are those of a text, and a text is cut before and behind every byte below
128, since such a byte is a character of its own.
-/
namespace Hush.Text

/-- Whether bytes go on from what is begun to the end of a character. -/
def Begun.completes (s : Begun) (bytes : List UInt8) : Bool := (decodeFrom s bytes []).isSome

namespace Begun

/-- The characters read before do not matter. -/
theorem isSome_decodeFrom (s : Begun) (bytes : List UInt8) (read : List Char) :
    (decodeFrom s bytes read).isSome = s.completes bytes := by
  suffices ∀ one other, (decodeFrom s bytes one).isSome = (decodeFrom s bytes other).isSome from
    this read []
  induction bytes generalizing s with
  | nil =>
    intro one other
    by_cases h : s.missing = 0 <;> simp [decodeFrom, h]
  | cons b bytes ih =>
    intro one other
    simp only [decodeFrom]
    split
    · exact ih _ _ _
    · exact ih _ _ _
    · rfl

theorem completes_nil (s : Begun) : s.completes [] = decide (s.missing = 0) := by
  by_cases h : s.missing = 0 <;> simp [completes, decodeFrom, h]

theorem completes_cons (s : Begun) (b : UInt8) (bytes : List UInt8) :
    s.completes (b :: bytes) = (s.next b).any fun after => after.1.completes bytes := by
  rw [completes, decodeFrom]
  split
  · next h =>
    rw [h, Option.any_some]
    exact isSome_decodeFrom _ _ _
  · next h =>
    rw [h, Option.any_some]
    rfl
  · next h => rw [h, Option.any_none, Option.isSome_none]

/-- Nothing can be told apart between two characters. -/
theorem completes_of_missing_eq_zero {s : Begun} (h : s.missing = 0) (bytes : List UInt8) :
    s.completes bytes = isText bytes := by
  cases bytes with
  | nil => simp [completes, isText, decode?, decodeFrom, h, nothing]
  | cons b bytes =>
    have hnext : s.next b = nothing.next b := by simp [next, h, nothing]
    change s.completes (b :: bytes) = nothing.completes (b :: bytes)
    rw [completes_cons, completes_cons, hnext]

theorem completes_append {s : Begun} {a : List UInt8} (h : s.completes a = true)
    (b : List UInt8) : s.completes (a ++ b) = isText b := by
  induction a generalizing s with
  | nil =>
    rw [completes_nil, decide_eq_true_eq] at h
    exact completes_of_missing_eq_zero h b
  | cons x a ih =>
    rw [completes_cons] at h
    rw [List.cons_append, completes_cons]
    cases hx : s.next x with
    | none => simp [hx] at h
    | some after =>
      rw [hx, Option.any_some] at h
      rw [Option.any_some, ih h]

/-- A byte below 128 continues no character. -/
theorem completes_append_ascii {c : UInt8} (hc : c < 0x80) (s : Begun) (a b : List UInt8) :
    s.completes (a ++ c :: b) = (s.completes a && isText b) := by
  induction a generalizing s with
  | nil =>
    rw [List.nil_append, completes_cons, completes_nil]
    by_cases h : s.missing = 0
    · simp [next, h, hc, completes_of_missing_eq_zero (s := nothing) rfl]
    · obtain ⟨missing, hm⟩ := Nat.exists_eq_succ_of_ne_zero h
      have hcont : isContinuation c = false := by
        have : ¬ (0x80 : UInt8) ≤ c := UInt8.not_le.mpr hc
        simp [isContinuation, this]
      simp [next, hm, hcont]
  | cons x a ih =>
    rw [List.cons_append, completes_cons, completes_cons]
    cases hx : s.next x with
    | none => rfl
    | some after => simp [ih]

end Begun

/-- What follows a text is judged by itself. -/
theorem isText_append {a : List UInt8} (ha : isText a = true) (b : List UInt8) :
    isText (a ++ b) = isText b := Begun.completes_append (s := .nothing) ha b

/-- A text is cut at every byte that is a character of its own. -/
theorem isText_append_ascii {c : UInt8} (hc : c < 0x80) (a b : List UInt8) :
    isText (a ++ c :: b) = (isText a && isText b) :=
  Begun.completes_append_ascii hc .nothing a b

end Hush.Text
