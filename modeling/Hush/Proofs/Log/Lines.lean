import Hush.Log.CappedFile
import Hush.Proofs.Text.Utf8

/-!
# Lines of a log

A log as the lines that a newline ends, each with it, and what comes after the last one. Cutting a
log back reads lines in another way: it takes carriage returns off their ends and counts what is
unfinished as a line. Where the two readings meet is what this module is about.
-/
namespace Hush.Log

/-! ### The newest members of a list -/

variable {α : Type}

@[simp] theorem length_newest (n : Nat) (xs : List α) : (newest n xs).length = min n xs.length := by
  simp only [newest, List.length_drop]
  omega

theorem newest_of_length_le {n : Nat} {xs : List α} (h : xs.length ≤ n) : newest n xs = xs := by
  have hzero : xs.length - n = 0 := by omega
  rw [newest, hzero, List.drop_zero]

theorem newest_suffix (n : Nat) (xs : List α) : newest n xs <:+ xs := List.drop_suffix _ _

theorem mem_of_mem_newest {n : Nat} {xs : List α} {x : α} (h : x ∈ newest n xs) : x ∈ xs :=
  List.mem_of_mem_drop h

/-- Of the newest members the newest are kept. -/
theorem newest_newest {m n : Nat} (h : m ≤ n) (xs : List α) :
    newest m (newest n xs) = newest m xs := by
  simp only [newest, List.length_drop, List.drop_drop]
  congr 1
  omega

/-- Members put at the end are kept with as many before them as without. -/
theorem newest_append (n : Nat) (xs ys : List α) :
    newest (n + ys.length) (xs ++ ys) = newest n xs ++ ys := by
  have hdrop : (xs ++ ys).length - (n + ys.length) = xs.length - n := by
    rw [List.length_append]
    omega
  rw [newest, newest, hdrop, List.drop_append_of_le_length (by omega)]

/-- Fewer of the newest members stand at the end of more. -/
theorem newest_suffix_newest {m n : Nat} (h : m ≤ n) (xs : List α) :
    newest m xs <:+ newest n xs := by
  rw [← newest_newest h]
  exact newest_suffix m _

/-! ### Lines with their ends -/

theorem newlines_append (a b : List UInt8) : newlines (a ++ b) = newlines a + newlines b :=
  List.count_append

/-- The lines that a newline ends, each with it. The first begins with bytes already read, which
are held in reverse. -/
def terminatedFrom (read : List UInt8) : List UInt8 → List (List UInt8)
  | [] => []
  | b :: bytes =>
    if b = newline then (b :: read).reverse :: terminatedFrom [] bytes
    else terminatedFrom (b :: read) bytes

/-- What comes after the last newline, or after what was read before if there is none. -/
def unfinishedFrom (read : List UInt8) : List UInt8 → List UInt8
  | [] => read.reverse
  | b :: bytes => if b = newline then unfinishedFrom [] bytes else unfinishedFrom (b :: read) bytes

/-- The lines that a newline ends, each with it. -/
def terminated (bytes : List UInt8) : List (List UInt8) := terminatedFrom [] bytes

/-- The line that no newline ends; empty when there is none. -/
def unfinished (bytes : List UInt8) : List UInt8 := unfinishedFrom [] bytes

/-- One newline, at the end. -/
def IsLine (line : List UInt8) : Prop := ∃ body, newline ∉ body ∧ line = body ++ [newline]

theorem flatten_terminatedFrom (read bytes : List UInt8) :
    (terminatedFrom read bytes).flatten ++ unfinishedFrom read bytes = read.reverse ++ bytes := by
  induction bytes generalizing read with
  | nil => simp [terminatedFrom, unfinishedFrom]
  | cons b bytes ih =>
    by_cases h : b = newline
    · simp [terminatedFrom, unfinishedFrom, h, ih]
    · simp [terminatedFrom, unfinishedFrom, h, ih]

/-- Nothing is lost between the lines. -/
theorem flatten_terminated (bytes : List UInt8) :
    (terminated bytes).flatten ++ unfinished bytes = bytes := flatten_terminatedFrom [] bytes

theorem length_terminatedFrom (read bytes : List UInt8) :
    (terminatedFrom read bytes).length = newlines bytes := by
  induction bytes generalizing read with
  | nil => rfl
  | cons b bytes ih =>
    unfold newlines at ih ⊢
    by_cases h : b = newline
    · simp [terminatedFrom, h, ih]
    · simp [terminatedFrom, h, ih]

@[simp] theorem length_terminated (bytes : List UInt8) :
    (terminated bytes).length = newlines bytes := length_terminatedFrom [] bytes

theorem isLine_of_mem_terminatedFrom {read bytes line : List UInt8} (hread : newline ∉ read)
    (h : line ∈ terminatedFrom read bytes) : IsLine line := by
  induction bytes generalizing read with
  | nil => simp [terminatedFrom] at h
  | cons b bytes ih =>
    by_cases hb : b = newline
    · rw [terminatedFrom, if_pos hb, List.mem_cons] at h
      rcases h with rfl | h
      · exact ⟨read.reverse, by simpa using hread, by simp [hb]⟩
      · exact ih List.not_mem_nil h
    · rw [terminatedFrom, if_neg hb] at h
      exact ih (by simp [hread, Ne.symm hb]) h

theorem isLine_of_mem_terminated {bytes line : List UInt8} (h : line ∈ terminated bytes) :
    IsLine line := isLine_of_mem_terminatedFrom List.not_mem_nil h

theorem newline_notMem_unfinishedFrom {read : List UInt8} (hread : newline ∉ read)
    (bytes : List UInt8) : newline ∉ unfinishedFrom read bytes := by
  induction bytes generalizing read with
  | nil => simpa [unfinishedFrom] using hread
  | cons b bytes ih =>
    by_cases hb : b = newline
    · simpa [unfinishedFrom, hb] using ih List.not_mem_nil
    · rw [unfinishedFrom, if_neg hb]
      exact ih (by simp [hread, Ne.symm hb])

theorem newline_notMem_unfinished (bytes : List UInt8) : newline ∉ unfinished bytes :=
  newline_notMem_unfinishedFrom List.not_mem_nil bytes

theorem terminatedFrom_append (read a b : List UInt8) :
    terminatedFrom read (a ++ b) =
      terminatedFrom read a ++ terminatedFrom (unfinishedFrom read a).reverse b := by
  induction a generalizing read with
  | nil => simp [terminatedFrom, unfinishedFrom]
  | cons x a ih =>
    by_cases hx : x = newline
    · simp [terminatedFrom, unfinishedFrom, hx, ih]
    · simp [terminatedFrom, unfinishedFrom, hx, ih]

theorem unfinishedFrom_append (read a b : List UInt8) :
    unfinishedFrom read (a ++ b) = unfinishedFrom (unfinishedFrom read a).reverse b := by
  induction a generalizing read with
  | nil => simp [unfinishedFrom]
  | cons x a ih =>
    by_cases hx : x = newline
    · simp [unfinishedFrom, hx, ih]
    · simp [unfinishedFrom, hx, ih]

theorem from_of_newline_notMem (read : List UInt8) {bytes : List UInt8} (h : newline ∉ bytes) :
    terminatedFrom read bytes = [] ∧ unfinishedFrom read bytes = read.reverse ++ bytes := by
  induction bytes generalizing read with
  | nil => simp [terminatedFrom, unfinishedFrom]
  | cons b bytes ih =>
    have hb : b ≠ newline := fun he => h (by simp [he])
    have hrest := ih (b :: read) fun hm => h (List.mem_cons_of_mem _ hm)
    simpa [terminatedFrom, unfinishedFrom, hb] using hrest

/-- Lines put together with something unfinished behind them are read back. -/
theorem read_back {lines : List (List UInt8)} (hlines : ∀ line ∈ lines, IsLine line)
    {rest : List UInt8} (hrest : newline ∉ rest) :
    terminated (lines.flatten ++ rest) = lines ∧ unfinished (lines.flatten ++ rest) = rest := by
  induction lines with
  | nil => simpa [terminated, unfinished] using from_of_newline_notMem [] hrest
  | cons line lines ih =>
    obtain ⟨body, hbody, rfl⟩ := hlines line List.mem_cons_self
    have hfirst := from_of_newline_notMem [] hbody
    have htail := ih fun line h => hlines line (List.mem_cons_of_mem _ h)
    rw [terminated, unfinished] at htail
    simp [terminated, unfinished, terminatedFrom_append, unfinishedFrom_append, hfirst,
      terminatedFrom, unfinishedFrom, htail]

/-- What ends with a newline leaves nothing unfinished. -/
theorem unfinished_of_getLast? {bytes : List UInt8} (h : bytes.getLast? = some newline) :
    unfinished bytes = [] := by
  obtain ⟨front, rfl⟩ := List.getLast?_eq_some_iff.mp h
  rw [unfinished, unfinishedFrom_append]
  simp [unfinishedFrom]

/-! ### Lines as they are cut back -/

/-- No newline comes right after a carriage return. -/
def HasNoPair (bytes : List UInt8) : Prop := ¬ [carriageReturn, newline] <:+: bytes

theorem HasNoPair.of_infix {a b : List UInt8} (h : HasNoPair b) (hab : a <:+: b) : HasNoPair a :=
  fun hpair => h (hpair.trans hab)

theorem endedLine_of_hasNoPair {read bytes : List UInt8}
    (h : HasNoPair (read.reverse ++ newline :: bytes)) : endedLine read = read.reverse := by
  cases read with
  | nil => rfl
  | cons b read =>
    have hb : b ≠ carriageReturn := by
      rintro rfl
      exact h ⟨read.reverse, bytes, by simp⟩
    rw [endedLine, if_neg hb]

/-- Without such a pair, the lines are those that a newline ends, without it, and the unfinished
one if it holds anything. -/
theorem linesFrom_of_hasNoPair (read : List UInt8) {bytes : List UInt8}
    (h : HasNoPair (read.reverse ++ bytes)) :
    linesFrom read bytes = (terminatedFrom read bytes).map List.dropLast ++
      if unfinishedFrom read bytes = [] then [] else [unfinishedFrom read bytes] := by
  induction bytes generalizing read with
  | nil => cases read <;> simp [linesFrom, terminatedFrom, unfinishedFrom]
  | cons b bytes ih =>
    by_cases hb : b = newline
    · subst hb
      have hrest : HasNoPair ([].reverse ++ bytes) :=
        h.of_infix ⟨read.reverse ++ [newline], [], by simp⟩
      simp [linesFrom, terminatedFrom, unfinishedFrom, ih [] hrest, endedLine_of_hasNoPair h]
    · have hrest : HasNoPair ((b :: read).reverse ++ bytes) := by simpa using h
      simp only [linesFrom, terminatedFrom, unfinishedFrom, if_neg hb, ih (b :: read) hrest]

theorem ofLines_map_dropLast {lines : List (List UInt8)} (h : ∀ line ∈ lines, IsLine line) :
    ofLines (lines.map List.dropLast) = lines.flatten := by
  induction lines with
  | nil => rfl
  | cons line lines ih =>
    obtain ⟨body, -, rfl⟩ := h line List.mem_cons_self
    have hrest := ih fun line hl => h line (List.mem_cons_of_mem _ hl)
    simpa [ofLines] using hrest

/-- A text that ends with a newline is cut back to its newest lines as they are. -/
theorem cutBack_of_unfinished_eq_nil {bytes : List UInt8} (hpair : HasNoPair bytes)
    (hend : unfinished bytes = []) (cap : Nat) :
    cutBack cap bytes = bytes ∨ cutBack cap bytes = (newest cap (terminated bytes)).flatten := by
  have hlines : linesOf bytes = (terminated bytes).map List.dropLast := by
    have hall := linesFrom_of_hasNoPair [] hpair
    rw [show unfinishedFrom [] bytes = [] from hend, if_pos rfl, List.append_nil] at hall
    exact hall
  unfold cutBack
  split
  · dsimp only
    split
    · right
      have hnewest : newest cap ((terminated bytes).map List.dropLast) =
          (newest cap (terminated bytes)).map List.dropLast := by
        simp [newest, List.map_drop]
      rw [hlines, hnewest]
      exact ofLines_map_dropLast fun line h => isLine_of_mem_terminated (mem_of_mem_newest h)
    · exact Or.inl rfl
  · exact Or.inl rfl

/-- Every newline ends a line, so there are no fewer lines than newlines. -/
theorem newlines_le_length_linesFrom (read bytes : List UInt8) :
    newlines bytes ≤ (linesFrom read bytes).length := by
  induction bytes generalizing read with
  | nil => simp [newlines]
  | cons b bytes ih =>
    unfold newlines at ih ⊢
    by_cases hb : b = newline
    · simpa [linesFrom, hb] using ih []
    · simpa [linesFrom, hb] using ih (b :: read)

/-- A line that was begun is there at the end. -/
theorem length_linesFrom_pos (b : UInt8) (read bytes : List UInt8) :
    0 < (linesFrom (b :: read) bytes).length := by
  induction bytes generalizing b read with
  | nil => simp [linesFrom]
  | cons c bytes ih =>
    rw [linesFrom]
    split
    · simp
    · exact ih c (b :: read)

/-- Bytes behind a text take none of its lines away. -/
theorem length_linesFrom_le_append (read bytes more : List UInt8) :
    (linesFrom read bytes).length ≤ (linesFrom read (bytes ++ more)).length := by
  induction bytes generalizing read with
  | nil =>
    cases read with
    | nil => simp [linesFrom]
    | cons b read => exact length_linesFrom_pos b read more
  | cons b bytes ih =>
    by_cases hb : b = newline
    · simpa [linesFrom, hb] using ih []
    · simpa [linesFrom, hb] using ih (b :: read)

theorem cutBack_of_length_le {cap : Nat} {bytes : List UInt8}
    (h : (linesOf bytes).length ≤ cap) : cutBack cap bytes = bytes := by
  rw [cutBack]
  split
  · exact if_neg (Nat.not_lt.mpr h)
  · rfl

theorem endedLine_isPrefixOf (read : List UInt8) : endedLine read <+: read.reverse := by
  cases read with
  | nil => exact List.prefix_rfl
  | cons b read =>
    rw [endedLine]
    split
    · rw [List.reverse_cons]
      exact List.prefix_append _ _
    · exact List.prefix_rfl

theorem newline_notMem_of_mem_linesFrom {read bytes line : List UInt8} (hread : newline ∉ read)
    (h : line ∈ linesFrom read bytes) : newline ∉ line := by
  induction bytes generalizing read with
  | nil =>
    cases read with
    | nil => simp [linesFrom] at h
    | cons b read =>
      rw [linesFrom, List.mem_singleton] at h
      · subst h
        rwa [List.mem_reverse]
      · simp
  | cons b bytes ih =>
    rw [linesFrom] at h
    by_cases hb : b = newline
    · rw [if_pos hb, List.mem_cons] at h
      rcases h with rfl | h
      · intro hmem
        exact hread (by simpa using (endedLine_isPrefixOf read).subset hmem)
      · exact ih List.not_mem_nil h
    · rw [if_neg hb] at h
      exact ih (by simp [hread, Ne.symm hb]) h

/-- Lines put together have one newline each. -/
theorem newlines_ofLines {lines : List (List UInt8)} (h : ∀ line ∈ lines, newline ∉ line) :
    newlines (ofLines lines) = lines.length := by
  induction lines with
  | nil => rfl
  | cons line lines ih =>
    have hline : line.count newline = 0 := List.count_eq_zero.mpr (h line List.mem_cons_self)
    have hrest := ih fun line hl => h line (List.mem_cons_of_mem _ hl)
    unfold newlines ofLines at hrest ⊢
    simp [hline, hrest]

/-- The lines of a text are texts. -/
theorem isText_of_mem_linesFrom (read : List UInt8) {bytes line : List UInt8}
    (htext : Text.isText (read.reverse ++ bytes) = true) (h : line ∈ linesFrom read bytes) :
    Text.isText line = true := by
  induction bytes generalizing read with
  | nil =>
    cases read with
    | nil => simp [linesFrom] at h
    | cons b read =>
      rw [linesFrom, List.mem_singleton] at h
      · subst h
        simpa using htext
      · simp
  | cons b bytes ih =>
    rw [linesFrom] at h
    by_cases hb : b = newline
    · subst hb
      rw [Text.isText_append_ascii (by decide), Bool.and_eq_true] at htext
      rw [if_pos rfl, List.mem_cons] at h
      rcases h with rfl | h
      · cases read with
        | nil => rfl
        | cons b read =>
          rw [endedLine]
          split
          · next hb =>
            have hcut := htext.1
            rw [List.reverse_cons, Text.isText_append_ascii (by rw [hb]; decide)] at hcut
            exact (Bool.and_eq_true_iff.mp hcut).1
          · exact htext.1
      · exact ih [] htext.2 h
    · rw [if_neg hb] at h
      exact ih (b :: read) (by simpa using htext) h

theorem isText_ofLines {lines : List (List UInt8)}
    (h : ∀ line ∈ lines, Text.isText line = true) : Text.isText (ofLines lines) = true := by
  induction lines with
  | nil => rfl
  | cons line lines ih =>
    have hline := h line List.mem_cons_self
    have hrest := ih fun line hl => h line (List.mem_cons_of_mem _ hl)
    have hcons : ofLines (line :: lines) = line ++ newline :: ofLines lines := by
      simp [ofLines]
    rw [hcons, Text.isText_append_ascii (by decide), hline, hrest]
    rfl

/-- Cutting a text back leaves a text. -/
theorem isText_cutBack {bytes : List UInt8} (h : Text.isText bytes = true) (cap : Nat) :
    Text.isText (cutBack cap bytes) = true := by
  rw [cutBack, if_pos h]
  dsimp only
  split
  · exact isText_ofLines fun line hl => isText_of_mem_linesFrom [] h (mem_of_mem_newest hl)
  · exact h

/-- A text cut back has no more newlines than it may have lines. -/
theorem newlines_cutBack_le {bytes : List UInt8} (h : Text.isText bytes = true) (cap : Nat) :
    newlines (cutBack cap bytes) ≤ cap := by
  rw [cutBack, if_pos h]
  dsimp only
  split
  · have hlines : ∀ line ∈ newest cap (linesOf bytes), newline ∉ line := fun line hl =>
      newline_notMem_of_mem_linesFrom List.not_mem_nil (mem_of_mem_newest hl)
    rw [newlines_ofLines hlines, length_newest]
    exact Nat.min_le_left _ _
  · next hfew => exact Nat.le_trans (newlines_le_length_linesFrom [] bytes) (Nat.not_lt.mp hfew)

end Hush.Log
