import Hush.Proofs.Log.Lines
import Hush.Proofs.Log.Writing

/-!
# Newest lines survive

When nobody removes the file, it ends all that was ever written: its first byte begins a line, and
no line is missing that is among the newest, as many as the cap. A cut happens only after a buffer
that holds a newline. Such a buffer ends with one, so that no line is unfinished when the lines are
read and put together again.
-/
namespace Hush.Log

/-! ### The end of a text -/

/-- The newest lines of a text and what is unfinished behind them. -/
def newestText (count : Nat) (bytes : List UInt8) : List UInt8 :=
  (newest count (terminated bytes)).flatten ++ unfinished bytes

theorem newestText_of_newlines_le {n : Nat} {bytes : List UInt8} (h : newlines bytes ≤ n) :
    newestText n bytes = bytes := by
  have hall : newest n (terminated bytes) = terminated bytes :=
    newest_of_length_le (by rwa [length_terminated])
  rw [newestText, hall, flatten_terminated]

theorem newestText_suffix_newestText {m n : Nat} (h : m ≤ n) (bytes : List UInt8) :
    newestText m bytes <:+ newestText n bytes := by
  obtain ⟨older, holder⟩ := newest_suffix_newest h (terminated bytes)
  refine ⟨older.flatten, ?_⟩
  rw [newestText, newestText, ← holder, List.flatten_append, List.append_assoc]

/-- Bytes behind the end of a text make an end that has at least as many lines. -/
theorem newestText_append (m : Nat) (bytes more : List UInt8) :
    ∃ n, m ≤ n ∧ newestText m bytes ++ more = newestText n (bytes ++ more) := by
  have hterminated : terminated (bytes ++ more) =
      terminated bytes ++ terminatedFrom (unfinished bytes).reverse more :=
    terminatedFrom_append [] bytes more
  have hunfinished : unfinished (bytes ++ more) =
      unfinishedFrom (unfinished bytes).reverse more := unfinishedFrom_append [] bytes more
  have hmore := flatten_terminatedFrom (unfinished bytes).reverse more
  rw [List.reverse_reverse] at hmore
  refine ⟨m + (terminatedFrom (unfinished bytes).reverse more).length, by omega, ?_⟩
  rw [newestText, newestText, hterminated, hunfinished, newest_append, List.flatten_append,
    List.append_assoc, List.append_assoc, hmore]

theorem getLast?_flatten {lines : List (List UInt8)} (h : ∀ line ∈ lines, IsLine line) :
    lines.flatten = [] ∨ lines.flatten.getLast? = some newline := by
  rcases List.eq_nil_or_concat lines with rfl | ⟨older, line, rfl⟩
  · exact Or.inl rfl
  · obtain ⟨body, -, rfl⟩ := h line (by simp)
    right
    simp

/-- What comes before the newest lines is nothing or ends with a newline. -/
theorem eq_append_newestText (n : Nat) (bytes : List UInt8) :
    ∃ older, bytes = older ++ newestText n bytes ∧
      (older = [] ∨ older.getLast? = some newline) := by
  refine ⟨((terminated bytes).take ((terminated bytes).length - n)).flatten, ?_, ?_⟩
  · rw [newestText, newest, ← List.append_assoc, ← List.flatten_append, List.take_append_drop,
      flatten_terminated]
  · exact getLast?_flatten fun line h => isLine_of_mem_terminated (List.mem_of_mem_take h)

/-- Cut back to a cap, the newest lines are still the newest, and not fewer than the cap. -/
theorem cutBack_newestText {cap n : Nat} (hcap : cap ≤ n) {bytes : List UInt8}
    (hpair : HasNoPair bytes) (hend : unfinished bytes = []) :
    ∃ m, cap ≤ m ∧ cutBack cap (newestText n bytes) = newestText m bytes := by
  have hlines : ∀ line ∈ newest n (terminated bytes), IsLine line := fun line h =>
    isLine_of_mem_terminated (mem_of_mem_newest h)
  obtain ⟨hterminated, hunfinished⟩ :=
    read_back hlines (newline_notMem_unfinished bytes)
  obtain ⟨older, holder, -⟩ := eq_append_newestText n bytes
  have hsuffix : newestText n bytes <:+ bytes := ⟨older, holder.symm⟩
  have hcut := cutBack_of_unfinished_eq_nil (hpair.of_infix hsuffix.isInfix)
    (hunfinished.trans hend) cap
  rcases hcut with hcut | hcut
  · exact ⟨n, hcap, hcut⟩
  · refine ⟨cap, Nat.le_refl cap, ?_⟩
    rw [hcut, newestText, newestText, hterminated, newest_newest hcap, hend, List.append_nil]

/-- Cutting back takes whole lines off the front of a text that ends with one. -/
theorem cutBack_suffix {bytes : List UInt8} (hpair : HasNoPair bytes)
    (hend : unfinished bytes = []) (cap : Nat) : cutBack cap bytes <:+ bytes := by
  rcases cutBack_of_unfinished_eq_nil hpair hend cap with hcut | hcut
  · exact ⟨[], hcut⟩
  · obtain ⟨older, holder, -⟩ := eq_append_newestText cap bytes
    refine ⟨older, ?_⟩
    rw [newestText, hend, List.append_nil, ← hcut] at holder
    exact holder.symm

/-! ### One write -/

/-- A file ends all that was written, with no fewer lines than its cap allows. -/
structure CappedFile.KeepsNewest (bytes : List UInt8) (f : CappedFile) : Prop where
  kept : ∃ n, f.maxLines.toNat ≤ n ∧ f.bytes = newestText n bytes
  countsFew : f.CountsFew

/-- A buffer has no newline or ends with one. -/
def EndsLines (buffer : List UInt8) : Prop :=
  newline ∉ buffer ∨ buffer.getLast? = some newline

namespace CappedFile

/-- Whatever a file holds is the end of itself. -/
theorem CountsFew.keepsNewest {f : CappedFile} (h : f.CountsFew) : f.KeepsNewest f.bytes := by
  refine ⟨⟨max f.maxLines.toNat (newlines f.bytes), Nat.le_max_left _ _, ?_⟩, h⟩
  exact (newestText_of_newlines_le (Nat.le_max_right _ _)).symm

/-- Of two files that end the same one ends the other. -/
theorem KeepsNewest.suffix_or_suffix {bytes : List UInt8} {f g : CappedFile}
    (hf : f.KeepsNewest bytes) (hg : g.KeepsNewest bytes) :
    f.bytes <:+ g.bytes ∨ g.bytes <:+ f.bytes := by
  obtain ⟨m, -, hm⟩ := hf.kept
  obtain ⟨n, -, hn⟩ := hg.kept
  rw [hm, hn]
  rcases Nat.le_total m n with h | h
  · exact Or.inl (newestText_suffix_newestText h bytes)
  · exact Or.inr (newestText_suffix_newestText h bytes)

/-- Without a newline a buffer does not make a writer cut. -/
theorem CountsFew.not_cuts {f : CappedFile} (h : f.CountsFew) (writer : Nat)
    {buffer : List UInt8} (hbuffer : newline ∉ buffer) :
    ¬ cutThreshold f.maxLines ≤ f.counted writer buffer := by
  have hnone : newlines buffer = 0 := List.count_eq_zero.mpr hbuffer
  have hcounted : f.counted writer buffer = f.pending.getD writer 0 := by
    simp [counted, hnone]
  rw [hcounted, UInt32.not_le]
  exact h.getD_lt writer

theorem KeepsNewest.write {before : List UInt8} {f : CappedFile} (h : f.KeepsNewest before)
    (writer : Nat) {buffer : List UInt8} (hbuffer : EndsLines buffer)
    (hpair : HasNoPair (before ++ buffer)) :
    (f.write writer buffer).KeepsNewest (before ++ buffer) := by
  obtain ⟨m, hm, hbytes⟩ := h.kept
  obtain ⟨n, hmn, happend⟩ := newestText_append m before buffer
  have hn : f.maxLines.toNat ≤ n := Nat.le_trans hm hmn
  refine ⟨?_, h.countsFew.write writer buffer⟩
  rw [bytes_write, hbytes, happend, maxLines_write]
  by_cases hcut : cutThreshold f.maxLines ≤ f.counted writer buffer
  · rw [if_pos hcut]
    have hlast : buffer.getLast? = some newline :=
      hbuffer.resolve_left fun hnone => h.countsFew.not_cuts writer hnone hcut
    have hend : unfinished (before ++ buffer) = [] :=
      unfinished_of_getLast? (by rw [List.getLast?_append, hlast]; rfl)
    exact cutBack_newestText hn hpair hend
  · rw [if_neg hcut]
    exact ⟨n, hn, rfl⟩

/-! ### Any number of writes -/

theorem KeepsNewest.run {k : Nat} {before : List UInt8} {f : CappedFile}
    (h : f.KeepsNewest before) (buffers : List (Buffered k))
    (hbuffers : ∀ buffer ∈ buffers, EndsLines buffer.bytes)
    (hpair : HasNoPair (before ++ written buffers)) :
    (f.run (buffers.map .write)).KeepsNewest (before ++ written buffers) := by
  induction buffers generalizing before f with
  | nil =>
    have hall : before ++ written ([] : List (Buffered k)) = before := by simp [written]
    rw [hall]
    exact h
  | cons buffer buffers ih =>
    have hall : before ++ written (buffer :: buffers) =
        before ++ buffer.bytes ++ written buffers := by
      simp [written]
    rw [hall] at hpair ⊢
    have hfirst : HasNoPair (before ++ buffer.bytes) :=
      hpair.of_infix (List.prefix_append _ _).isInfix
    have hnext := h.write buffer.writer (hbuffers buffer List.mem_cons_self) hfirst
    exact ih hnext (fun b hb => hbuffers b (List.mem_cons_of_mem _ hb)) hpair

end CappedFile

/-- Newest lines are neither lost nor altered. After writes of whole lines and parts of lines,
through any number of writers and with no carriage return before a newline, the file is the end of
all that was written, from where a line begins. It holds the newest lines, as many as the cap or
all there are, and what is unfinished. Every write takes the whole of its buffer. -/
theorem newest_lines_survive {k : Nat} {path : String} {files : Files} {initial : List UInt8}
    (hopen : files.OpensWith path initial) (maxLines : UInt32) (buffers : List (Buffered k))
    (hbuffers : ∀ buffer ∈ buffers, newline ∉ buffer.bytes ∨ buffer.bytes.getLast? = some newline)
    (hpair : ¬ [carriageReturn, newline] <:+: initial ++ written buffers) :
    ∃ after kept older, (Logs.start k path maxLines files).run (buffers.map .write) = .ok after ∧
      after.lengths = buffers.map (·.bytes.length) ∧ after.files.OpensWith path kept ∧
      initial ++ written buffers = older ++ kept ∧
      (older = [] ∨ older.getLast? = some newline) ∧
      newestText maxLines.toNat (initial ++ written buffers) <:+ kept := by
  obtain ⟨contents, after, hinitial, hrun, hlengths, hfile, -⟩ :=
    Logs.run_start hopen maxLines (buffers.map Action.write)
  have hstart := (CappedFile.countsFew_start k maxLines contents).keepsNewest
  rw [hinitial] at hstart
  obtain ⟨n, hn, hkept⟩ := (hstart.run buffers hbuffers hpair).kept
  rw [hkept] at hfile
  obtain ⟨older, hall, holder⟩ := eq_append_newestText n (initial ++ written buffers)
  refine ⟨after, _, older, hrun, ?_, hfile, hall, holder, ?_⟩
  · rw [hlengths, lengths_writes]
  · rw [CappedFile.maxLines_run] at hn
    exact newestText_suffix_newestText hn _

/-- Two writers on a file that is not there yet, the first of which cuts it back to one line. -/
theorem newest_lines_survive_two_writers :
    let buffers : List (Buffered 2) := [⟨0, List.replicate 50 newline⟩, ⟨1, [65]⟩]
    ∃ after kept older, (Logs.start 2 "a" 1 []).run (buffers.map .write) = .ok after ∧
      after.lengths = [50, 1] ∧ after.files.OpensWith "a" kept ∧
      List.replicate 50 newline ++ [65] = older ++ kept ∧
      (older = [] ∨ older.getLast? = some newline) ∧ [newline, 65] <:+ kept :=
  newest_lines_survive ⟨none, rfl, rfl⟩ 1 _ (by decide) (by decide)

end Hush.Log
