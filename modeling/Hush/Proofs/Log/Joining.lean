import Hush.Proofs.Log.Trimming

/-!
# Joined writes

A text may come in one write or in two. A writer that does not cut between them leaves the same file
either way. One that does cut there ends the line it finds unfinished, so the two files end alike
only when no line is cut in two.
-/
namespace Hush.Log

namespace CappedFile

variable {f : CappedFile} {writer : Nat} {a : List UInt8}

/-- A writer that does not cut goes on counting. -/
theorem counted_write (hwriter : writer < f.pending.length)
    (h : ¬ cutThreshold f.maxLines ≤ f.counted writer a) (b : List UInt8) :
    (f.write writer a).counted writer b = f.counted writer (a ++ b) := by
  rw [counted, pending_write, if_neg h, List.getD_eq_getElem?_getD, List.getElem?_set_self hwriter,
    Option.getD_some, counted, counted, newlines_append, UInt32.ofNat_add, UInt32.add_assoc]

theorem write_append (hwriter : writer < f.pending.length)
    (h : ¬ cutThreshold f.maxLines ≤ f.counted writer a) (b : List UInt8) :
    ((f.write writer a).write writer b).bytes = (f.write writer (a ++ b)).bytes ∧
      ((f.write writer a).write writer b).pending = (f.write writer (a ++ b)).pending := by
  have hcounted := counted_write hwriter h b
  constructor
  · rw [bytes_write, bytes_write, bytes_write, hcounted, maxLines_write, if_neg h,
      List.append_assoc]
  · rw [pending_write, pending_write, pending_write, hcounted, maxLines_write, List.set_set]

/-- A file with no more lines than its cap only grows, whether the writer cuts or not. -/
theorem bytes_write_of_length_le (writer : Nat)
    (h : (linesOf (f.bytes ++ a)).length ≤ f.maxLines.toNat) :
    (f.write writer a).bytes = f.bytes ++ a := by
  rw [bytes_write, cutBack_of_length_le h, ite_self]

theorem write_append_of_length_le (writer : Nat) {b : List UInt8}
    (h : (linesOf (f.bytes ++ (a ++ b))).length ≤ f.maxLines.toNat) :
    ((f.write writer a).write writer b).bytes = (f.write writer (a ++ b)).bytes := by
  have hall : (linesOf (f.bytes ++ a ++ b)).length ≤ f.maxLines.toNat := by rwa [List.append_assoc]
  have hfirst := bytes_write_of_length_le writer
    (Nat.le_trans (length_linesFrom_le_append [] (f.bytes ++ a) b) hall)
  have hsecond : (linesOf ((f.write writer a).bytes ++ b)).length ≤
      (f.write writer a).maxLines.toNat := by rwa [hfirst, maxLines_write]
  rw [bytes_write_of_length_le writer hsecond, bytes_write_of_length_le writer h, hfirst,
    List.append_assoc]

/-- Whole lines are read and put together again as they are, wherever the file is cut. A first write
that leaves the file within its cap need not end with one. -/
theorem suffix_or_suffix_of_whole (hfew : f.CountsFew) (writer : Nat) {b : List UInt8}
    (ha : a.getLast? = some newline ∨ (linesOf (f.bytes ++ a)).length ≤ f.maxLines.toNat)
    (hb : (a ++ b).getLast? = some newline) (hpair : HasNoPair (f.bytes ++ (a ++ b))) :
    ((f.write writer a).write writer b).bytes <:+ (f.write writer (a ++ b)).bytes ∨
      (f.write writer (a ++ b)).bytes <:+ ((f.write writer a).write writer b).bytes := by
  rcases ha with ha | hfits
  · have hrest : EndsLines b := by
      cases b with
      | nil => exact Or.inl List.not_mem_nil
      | cons x b =>
        right
        rwa [List.getLast?_append, List.getLast?_cons, Option.some_or, ← List.getLast?_cons] at hb
    have hfirst : HasNoPair (f.bytes ++ a) :=
      hpair.of_infix (by rw [← List.append_assoc]; exact (List.prefix_append _ b).isInfix)
    have hpair' : HasNoPair (f.bytes ++ a ++ b) := by rwa [List.append_assoc]
    have hapart := (hfew.keepsNewest.write writer (Or.inr ha) hfirst).write writer hrest hpair'
    have hjoined := hfew.keepsNewest.write writer (Or.inr hb) hpair
    rw [List.append_assoc] at hapart
    exact hapart.suffix_or_suffix hjoined
  · -- Either way the file is the whole text, or the whole text cut back.
    have hend : unfinished (f.bytes ++ (a ++ b)) = [] :=
      unfinished_of_getLast? (by rw [List.getLast?_append, hb, Option.some_or])
    have hcut := cutBack_suffix hpair hend f.maxLines.toNat
    rw [bytes_write (f.write writer a), bytes_write f writer (a ++ b), maxLines_write,
      bytes_write_of_length_le writer hfits, List.append_assoc]
    split <;> split
    · exact Or.inl List.suffix_rfl
    · exact Or.inl hcut
    · exact Or.inr hcut
    · exact Or.inl List.suffix_rfl

end CappedFile

/-- Joined writes agree with the same writes made apart. Where the first does not make its writer
cut the file, the files are the same and so is what is counted. The files are the same as well where
both writes together leave no more lines than the cap. Elsewhere one file is the end of the other as
long as the text ends a line, no carriage return stands before a newline, and the first write ends a
line too or leaves no more lines than the cap. -/
theorem joined_writes_agree {k : Nat} {logs : Logs} {initial : List UInt8}
    (hopen : logs.files.OpensWith logs.writers.path initial)
    (hwriters : logs.writers.pending.length = k)
    (hfew : ∀ n ∈ logs.writers.pending, n < cutThreshold logs.writers.maxLines)
    (writer : Fin k) (a b : List UInt8) :
    let cutsBetween := cutThreshold logs.writers.maxLines ≤
      logs.writers.pending.getD writer 0 + UInt32.ofNat (newlines a)
    ∃ apart joined kept kept', logs.run [.write ⟨writer, a⟩, .write ⟨writer, b⟩] = .ok apart ∧
      logs.run [.write ⟨writer, a ++ b⟩] = .ok joined ∧
      apart.files.OpensWith logs.writers.path kept ∧
      joined.files.OpensWith logs.writers.path kept' ∧
      (¬ cutsBetween → kept = kept' ∧ apart.writers.pending = joined.writers.pending) ∧
      ((linesOf (initial ++ (a ++ b))).length ≤ logs.writers.maxLines.toNat → kept = kept') ∧
      (a.getLast? = some newline ∨
          (linesOf (initial ++ a)).length ≤ logs.writers.maxLines.toNat →
        (a ++ b).getLast? = some newline →
        ¬ [carriageReturn, newline] <:+: initial ++ (a ++ b) →
        kept <:+ kept' ∨ kept' <:+ kept) := by
  intro cutsBetween
  obtain ⟨contents, hopened, rfl⟩ := hopen
  let f := logs.writers.finding contents
  have hfinds : logs.Finds f := ⟨hopened, rfl, rfl⟩
  have hcounts : f.CountsFew := hfew
  have hwriter : writer.val < f.pending.length := hwriters ▸ writer.isLt
  obtain ⟨apart, hapart, hfound, hpath, -⟩ := hfinds.run [.write ⟨writer, a⟩, .write ⟨writer, b⟩]
  obtain ⟨joined, hjoined, hfound', hpath', -⟩ := hfinds.run [.write ⟨writer, a ++ b⟩]
  refine ⟨apart, joined, _, _, hapart, hjoined, ⟨_, hpath ▸ hfound.opened, rfl⟩,
    ⟨_, hpath' ▸ hfound'.opened, rfl⟩, ?_, ?_, ?_⟩
  · intro hcut
    obtain ⟨hbytes, hpending⟩ := CappedFile.write_append hwriter hcut b
    refine ⟨hbytes, ?_⟩
    rw [hfound.pending, hfound'.pending]
    exact hpending
  · intro hfits
    exact CappedFile.write_append_of_length_le writer hfits
  · intro ha hb hpair
    exact CappedFile.suffix_or_suffix_of_whole hcounts writer ha hb hpair

/-- Lines enough for a cut, and one more line behind them. -/
theorem joined_writes_agree_whole_lines :
    let a := List.replicate 50 newline
    let b : List UInt8 := [98, newline]
    let logs := Logs.start 1 "a" 1 []
    ∃ apart joined kept kept', logs.run [.write ⟨(0 : Fin 1), a⟩, .write ⟨0, b⟩] = .ok apart ∧
      logs.run [.write ⟨(0 : Fin 1), a ++ b⟩] = .ok joined ∧ apart.files.OpensWith "a" kept ∧
      joined.files.OpensWith "a" kept' ∧ (kept <:+ kept' ∨ kept' <:+ kept) := by
  intro a b logs
  have hopen : (Logs.start 1 "a" 1 []).files.OpensWith "a" [] := ⟨none, rfl, rfl⟩
  obtain ⟨apart, joined, kept, kept', hapart, hjoined, hkept, hkept', -, -, hagree⟩ :=
    joined_writes_agree hopen rfl (CappedFile.countsFew_start 1 1 none) (0 : Fin 1) a b
  exact ⟨apart, joined, kept, kept', hapart, hjoined, hkept, hkept',
    hagree (.inl (by decide)) (by decide) (by decide)⟩

/-- A cut amid a line ends it there, so that what belongs to it comes to stand on the next. -/
theorem cut_amid_a_line_parts_writes :
    let a := List.replicate 50 newline ++ [97]
    let b : List UInt8 := [98, newline]
    let logs := Logs.start 1 "a" 1 []
    Text.isText a = true ∧ Text.isText b = true ∧
      (logs.run [.write ⟨(0 : Fin 1), a⟩, .write ⟨0, b⟩]).bind (·.files.read "a") =
        .ok [97, newline, 98, newline] ∧
      (logs.run [.write ⟨(0 : Fin 1), a ++ b⟩]).bind (·.files.read "a") = .ok [97, 98, newline] ∧
      ¬ ([97, newline, 98, newline] <:+ [97, 98, newline] ∨
        [97, 98, newline] <:+ [97, newline, 98, newline]) :=
  ⟨rfl, rfl, rfl, rfl, by decide⟩

end Hush.Log
