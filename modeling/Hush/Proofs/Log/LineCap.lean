import Hush.Proofs.Log.Lines
import Hush.Proofs.Log.Writing
import Mathlib.Algebra.GroupWithZero.Nat

/-!
# The log stays capped

A file that is a text has no more lines than it began with, or than the cap if that is more, and
those that its writers have counted since each of them last cut it. A writer that cuts forgets its
own count only. What the others have counted is then more than what is left of it in the file, and
the bound stands.
-/
namespace Hush.Log

/-! ### What writers have counted -/

namespace CappedFile

/-- What all writers have counted since each last cut the file back. -/
def allCounted (f : CappedFile) : Nat := (f.pending.map UInt32.toNat).sum

theorem sum_map_set {pending : List UInt32} {i : Nat} (h : i < pending.length) (n : UInt32) :
    ((pending.set i n).map UInt32.toNat).sum + (pending.getD i 0).toNat =
      (pending.map UInt32.toNat).sum + n.toNat := by
  induction pending generalizing i with
  | nil => exact absurd h (Nat.not_lt_zero i)
  | cons m pending ih =>
    cases i with
    | zero =>
      simp only [List.set_cons_zero, List.map_cons, List.sum_cons, List.getD_cons_zero]
      omega
    | succ i =>
      have hrest := ih (Nat.lt_of_succ_lt_succ h)
      simp only [List.set_cons_succ, List.map_cons, List.sum_cons, List.getD_cons_succ]
      omega

/-- A count below the threshold has room for any buffer with less than half as many newlines as a
counter can hold. -/
theorem CountsFew.toNat_counted {f : CappedFile} (h : f.CountsFew) (writer : Nat)
    {buffer : List UInt8} (hfew : newlines buffer < 2 ^ 31) :
    (f.counted writer buffer).toNat = (f.pending.getD writer 0).toNat + newlines buffer := by
  have hbelow := UInt32.lt_iff_toNat_lt.mp (h.getD_lt writer)
  have hword := f.maxLines.toNat_lt
  rw [toNat_cutThreshold] at hbelow
  rw [counted, UInt32.toNat_add, UInt32.toNat_ofNat']
  omega

/-! ### One action -/

/-- A text with few lines: no more than the bound and what the writers have counted. -/
structure StaysCapped (k bound : Nat) (f : CappedFile) : Prop where
  isText : Text.isText f.bytes = true
  newlines_le : newlines f.bytes ≤ bound + f.allCounted
  cap_le : f.maxLines.toNat ≤ bound
  countsFew : f.CountsFew
  writers : f.pending.length = k

variable {k bound : Nat}

theorem StaysCapped.write {f : CappedFile} (h : f.StaysCapped k bound) (writer : Fin k)
    {buffer : List UInt8} (htext : Text.isText buffer = true) (hfew : newlines buffer < 2 ^ 31) :
    (f.write writer buffer).StaysCapped k bound := by
  have hgrown : Text.isText (f.bytes ++ buffer) = true := by
    rw [Text.isText_append h.isText, htext]
  have hwriter : writer.val < f.pending.length := by
    rw [h.writers]
    exact writer.isLt
  have hcap := h.cap_le
  refine ⟨?_, ?_, ?_, h.countsFew.write writer buffer, ?_⟩
  · rw [bytes_write]
    split
    · exact isText_cutBack hgrown f.maxLines.toNat
    · exact hgrown
  · rw [bytes_write, allCounted, pending_write]
    split
    · have hcut := newlines_cutBack_le hgrown f.maxLines.toNat
      omega
    · have hsum := sum_map_set hwriter (f.counted writer buffer)
      have hcounted := h.countsFew.toNat_counted writer hfew
      have hbefore := h.newlines_le
      have hnewlines := newlines_append f.bytes buffer
      unfold allCounted at hbefore
      omega
  · rw [maxLines_write]
    exact hcap
  · rw [length_pending_write]
    exact h.writers

theorem StaysCapped.removed {f : CappedFile} (h : f.StaysCapped k bound) :
    f.removed.StaysCapped k bound :=
  ⟨rfl, Nat.zero_le _, h.cap_le, h.countsFew, h.writers⟩

/-! ### Any number of actions -/

/-- A buffer is a text with less than half as many newlines as a counter can hold. -/
def Fits (buffer : List UInt8) : Prop := Text.isText buffer = true ∧ newlines buffer < 2 ^ 31

theorem StaysCapped.run {f : CappedFile} (h : f.StaysCapped k bound) (actions : List (Action k))
    (hbuffers : ∀ buffer : Buffered k, .write buffer ∈ actions → Fits buffer.bytes) :
    (f.run actions).StaysCapped k bound := by
  induction actions generalizing f with
  | nil => exact h
  | cons action actions ih =>
    have hrest : ∀ buffer : Buffered k, .write buffer ∈ actions → Fits buffer.bytes :=
      fun buffer hb => hbuffers buffer (List.mem_cons_of_mem _ hb)
    cases action with
    | write buffer =>
      obtain ⟨htext, hfew⟩ := hbuffers buffer List.mem_cons_self
      exact ih (h.write buffer.writer htext hfew) hrest
    | remove => exact ih h.removed hrest

theorem staysCapped_start (k : Nat) (maxLines : UInt32) {contents : Option Contents}
    (htext : Text.isText (start k maxLines contents).bytes = true) :
    (start k maxLines contents).StaysCapped k
      (max (newlines (start k maxLines contents).bytes) maxLines.toNat) := by
  refine ⟨htext, ?_, Nat.le_max_right _ _, countsFew_start k maxLines contents, ?_⟩
  · have hmax := Nat.le_max_left (newlines (start k maxLines contents).bytes) maxLines.toNat
    omega
  · exact List.length_replicate

end CappedFile

/-- The log stays capped, whatever is written to it in texts and whenever the file is removed. It
has no more newlines than it had at first, or than the cap, and those that the writers have still
to count off, which are for each fewer than make it cut. -/
theorem lines_stay_capped {k : Nat} {path : String} {files : Files} {initial : List UInt8}
    (hopen : files.OpensWith path initial) (htext : Text.isText initial = true)
    (maxLines : UInt32) (actions : List (Action k))
    (hbuffers : ∀ buffer : Buffered k, .write buffer ∈ actions →
      Text.isText buffer.bytes = true ∧ newlines buffer.bytes < 2 ^ 31) :
    ∃ after bytes, (Logs.start k path maxLines files).run actions = .ok after ∧
      after.files.OpensWith path bytes ∧ after.writers.pending.length = k ∧
      (∀ n ∈ after.writers.pending, n.toNat < max (maxLines.toNat / 10) 50) ∧
      newlines bytes ≤ max (newlines initial) maxLines.toNat +
        (after.writers.pending.map UInt32.toNat).sum ∧
      (k = 1 → newlines bytes ≤
        max (newlines initial) maxLines.toNat + max (maxLines.toNat / 10) 50 - 1) := by
  obtain ⟨contents, after, hinitial, hrun, -, hfile, hpending⟩ :=
    Logs.run_start hopen maxLines actions
  have hstart := CappedFile.staysCapped_start k maxLines (hinitial.symm ▸ htext)
  rw [hinitial] at hstart
  have hcapped := hstart.run actions hbuffers
  have hbelow : ∀ n ∈ after.writers.pending, n.toNat < max (maxLines.toNat / 10) 50 := by
    intro n hn
    rw [hpending] at hn
    have hlt := hcapped.countsFew n hn
    rw [CappedFile.maxLines_run] at hlt
    exact toNat_cutThreshold maxLines ▸ UInt32.lt_iff_toNat_lt.mp hlt
  have hlines := hcapped.newlines_le
  have hwriters := hcapped.writers
  rw [CappedFile.allCounted] at hlines
  rw [← hpending] at hlines hwriters
  refine ⟨after, _, hrun, hfile, hwriters, hbelow, hlines, fun hone => ?_⟩
  obtain ⟨n, hn⟩ := List.length_eq_one_iff.mp (hwriters.trans hone)
  have hlt := hbelow n (by rw [hn]; exact List.mem_singleton_self n)
  rw [hn] at hlines
  simp only [List.map_cons, List.map_nil, List.sum_cons, List.sum_nil] at hlines
  omega

/-- Two writers, one of which writes again once the file was removed. -/
theorem lines_stay_capped_two_writers :
    let actions : List (Action 2) := [.write ⟨0, List.replicate 60 newline⟩,
      .write ⟨1, [65, newline]⟩, .remove, .write ⟨0, [66, newline]⟩]
    ∃ after bytes, (Logs.start 2 "a" 1 []).run actions = .ok after ∧
      after.files.OpensWith "a" bytes ∧ after.writers.pending.length = 2 ∧
      (∀ n ∈ after.writers.pending, n.toNat < 50) ∧
      newlines bytes ≤ 1 + (after.writers.pending.map UInt32.toNat).sum ∧
      (2 = 1 → newlines bytes ≤ 50) :=
  lines_stay_capped ⟨none, rfl, rfl⟩ rfl 1 _ (by simp; decide)

end Hush.Log
