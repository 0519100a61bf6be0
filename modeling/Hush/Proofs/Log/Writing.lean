import Hush.Log.CappedFile
import Hush.Proofs.Files.Storing

/-!
# Writing a log

Writers share a file, each with a counter of its own; writers that share a counter are one here.
Between their writes someone else may remove the file. What such a log goes through among other
files is what its capped file goes through by itself.
-/
namespace Hush.Log

theorem toNat_cutThreshold (maxLines : UInt32) :
    (cutThreshold maxLines).toNat = max (maxLines.toNat / 10) 50 := by
  show UInt32.toNat (if _ then _ else _) = _
  simp only [UInt32.le_iff_toNat_le, UInt32.toNat_div, UInt32.reduceToNat]
  split <;> simp only [UInt32.toNat_div, UInt32.reduceToNat] <;> omega

theorem cutThreshold_pos (maxLines : UInt32) : 0 < cutThreshold maxLines := by
  rw [UInt32.lt_iff_toNat_lt, toNat_cutThreshold]
  have hzero : (0 : UInt32).toNat = 0 := rfl
  omega

namespace CappedFile

/-! ### What a write does to the counters -/

@[simp] theorem maxLines_write (f : CappedFile) (writer : Nat) (buffer : List UInt8) :
    (f.write writer buffer).maxLines = f.maxLines := by
  simp only [write]
  split <;> rfl

/-- After a write there is a file. -/
theorem contents_write (f : CappedFile) (writer : Nat) (buffer : List UInt8) :
    (f.write writer buffer).contents = some (f.write writer buffer).current := by
  simp only [write]
  split <;> rfl

/-- A write leaves its counter at what it has counted, or at zero when it has cut. -/
theorem pending_write (f : CappedFile) (writer : Nat) (buffer : List UInt8) :
    (f.write writer buffer).pending = f.pending.set writer
      (if cutThreshold f.maxLines ≤ f.counted writer buffer then 0
        else f.counted writer buffer) := by
  simp only [write]
  split <;> rfl

@[simp] theorem length_pending_write (f : CappedFile) (writer : Nat) (buffer : List UInt8) :
    (f.write writer buffer).pending.length = f.pending.length := by
  rw [pending_write, List.length_set]

/-- No writer has counted as many newlines as make it cut the file back. -/
def CountsFew (f : CappedFile) : Prop := ∀ n ∈ f.pending, n < cutThreshold f.maxLines

theorem CountsFew.write {f : CappedFile} (h : f.CountsFew) (writer : Nat) (buffer : List UInt8) :
    (f.write writer buffer).CountsFew := by
  intro n hn
  rw [pending_write] at hn
  rw [maxLines_write]
  rcases List.mem_or_eq_of_mem_set hn with hn | rfl
  · exact h n hn
  · split
    · exact cutThreshold_pos f.maxLines
    · next hfew => exact UInt32.not_le.mp hfew

theorem CountsFew.getD_lt {f : CappedFile} (h : f.CountsFew) (writer : Nat) :
    f.pending.getD writer 0 < cutThreshold f.maxLines := by
  rw [List.getD_eq_getElem?_getD]
  cases hn : f.pending[writer]? with
  | none => exact cutThreshold_pos f.maxLines
  | some n => exact h n (List.mem_of_getElem? hn)

end CappedFile

/-! ### What happens to a log -/

/-- A buffer and the writer it goes through, by its counter. -/
structure Buffered (k : Nat) where
  writer : Fin k
  bytes : List UInt8
  deriving DecidableEq

def written {k : Nat} (buffers : List (Buffered k)) : List UInt8 := buffers.flatMap (·.bytes)

/-- A buffer is written, or someone else removes the file if there is one. -/
inductive Action (k : Nat) where
  | write (buffer : Buffered k)
  | remove
  deriving DecidableEq

/-- What a write hands back when it took the whole buffer; a removal hands back nothing. -/
def Action.lengths {k : Nat} : Action k → List Nat
  | .write buffer => [buffer.bytes.length]
  | .remove => []

variable {k : Nat}

/-- The capped file after an action. -/
def CappedFile.act (f : CappedFile) : Action k → CappedFile
  | .write buffer => f.write buffer.writer buffer.bytes
  | .remove => f.removed

theorem lengths_writes (buffers : List (Buffered k)) :
    (buffers.map Action.write).flatMap Action.lengths = buffers.map (·.bytes.length) := by
  induction buffers with
  | nil => rfl
  | cons buffer buffers ih => rw [List.map_cons, List.flatMap_cons, ih]; rfl

def CappedFile.run (f : CappedFile) (actions : List (Action k)) : CappedFile := actions.foldl act f

@[simp] theorem CappedFile.maxLines_act (f : CappedFile) (action : Action k) :
    (f.act action).maxLines = f.maxLines := by
  cases action with
  | write buffer => exact maxLines_write f buffer.writer buffer.bytes
  | remove => rfl

@[simp] theorem CappedFile.maxLines_run (f : CappedFile) (actions : List (Action k)) :
    (f.run actions).maxLines = f.maxLines := by
  induction actions generalizing f with
  | nil => rfl
  | cons action actions ih => exact (ih (f.act action)).trans (f.maxLines_act action)

/-- A capped file that no writer has counted newlines of. -/
def CappedFile.start (k : Nat) (maxLines : UInt32) (contents : Option Contents) : CappedFile :=
  ⟨maxLines, contents, List.replicate k 0⟩

theorem CappedFile.countsFew_start (k : Nat) (maxLines : UInt32) (contents : Option Contents) :
    (start k maxLines contents).CountsFew := by
  intro n hn
  rw [List.eq_of_mem_replicate hn]
  exact cutThreshold_pos maxLines

/-- A write never fails on a file that can be opened, and does to it what it does to the capped file
that the writers find. -/
theorem Writers.append_of_opened {w : Writers} {files : Files} {found : Option Contents}
    (hopen : files.opened w.path = .ok found) (writer : Nat) (buffer : List UInt8) :
    ∃ files', w.append files writer buffer =
        .ok ⟨{ w with pending := ((w.finding found).write writer buffer).pending }, files',
          buffer.length⟩ ∧
      files'.opened w.path = .ok ((w.finding found).write writer buffer).contents := by
  obtain ⟨files', hstore, hopened⟩ := Files.opened_store hopen
    ((w.finding found).write writer buffer).current
  refine ⟨files', ?_, ?_⟩
  · simp [Writers.append, hopen, hstore, bind, Except.bind, pure, Except.pure]
  · rw [CappedFile.contents_write]
    exact hopened

/-- Writers with the files around their own, and what their writes have handed back so far. -/
structure Logs where
  writers : Writers
  files : Files
  lengths : List Nat

namespace Logs

/-- New writers, each with a counter of its own. -/
def start (k : Nat) (path : String) (maxLines : UInt32) (files : Files) : Logs :=
  ⟨⟨path, maxLines, List.replicate k 0⟩, files, []⟩

/-- An action among the files. -/
def act (logs : Logs) : Action k → Except FileError Logs
  | .write buffer => do
    let out ← logs.writers.append logs.files buffer.writer buffer.bytes
    return ⟨out.writers, out.files, logs.lengths ++ [out.length]⟩
  | .remove => do
    match ← logs.files.opened logs.writers.path with
    | none => return logs
    | some _ => return { logs with files := ← logs.files.remove logs.writers.path }

/-- Actions in order, up to one that fails. -/
def run (logs : Logs) (actions : List (Action k)) : Except FileError Logs := actions.foldlM act logs

/-- The writers find their file in a state. -/
structure Finds (logs : Logs) (f : CappedFile) : Prop where
  opened : logs.files.opened logs.writers.path = .ok f.contents
  maxLines : logs.writers.maxLines = f.maxLines
  pending : logs.writers.pending = f.pending

/-- An action never fails on a file that can be opened, and does what it does to the file by
itself. -/
theorem Finds.act {logs : Logs} {f : CappedFile} (h : logs.Finds f) (action : Action k) :
    ∃ after, logs.act action = .ok after ∧ after.Finds (f.act action) ∧
      after.writers.path = logs.writers.path ∧ after.lengths = logs.lengths ++ action.lengths := by
  have hfinding : logs.writers.finding f.contents = f := by
    rw [Writers.finding, h.maxLines, h.pending]
  cases action with
  | write buffer =>
    obtain ⟨files, happend, hopened⟩ :=
      Writers.append_of_opened h.opened buffer.writer buffer.bytes
    rw [hfinding] at happend hopened
    refine ⟨⟨{ logs.writers with pending := (f.write buffer.writer buffer.bytes).pending }, files,
      logs.lengths ++ [buffer.bytes.length]⟩, ?_, ?_, rfl, rfl⟩
    · simp [Logs.act, happend, bind, Except.bind, pure, Except.pure]
    · have hmax : logs.writers.maxLines = (f.write buffer.writer buffer.bytes).maxLines := by
        rw [CappedFile.maxLines_write, h.maxLines]
      exact ⟨hopened, hmax, rfl⟩
  | remove =>
    have hopened := h.opened
    cases hcontents : f.contents with
    | none =>
      rw [hcontents] at hopened
      refine ⟨logs, ?_, ⟨hopened, h.maxLines, h.pending⟩, rfl, by simp [Action.lengths]⟩
      simp [Logs.act, hopened, bind, Except.bind, pure, Except.pure]
    | some contents =>
      rw [hcontents] at hopened
      obtain ⟨files, hremove, hgone⟩ := Files.opened_remove hopened
      refine ⟨{ logs with files := files }, ?_, ⟨hgone, h.maxLines, h.pending⟩, rfl,
        by simp [Action.lengths]⟩
      simp [Logs.act, hopened, hremove, bind, Except.bind, pure, Except.pure]

/-- Actions never fail on a file that can be opened, and do what they do to the file by itself. -/
theorem Finds.run {logs : Logs} {f : CappedFile} (h : logs.Finds f) (actions : List (Action k)) :
    ∃ after, logs.run actions = .ok after ∧ after.Finds (f.run actions) ∧
      after.writers.path = logs.writers.path ∧
      after.lengths = logs.lengths ++ actions.flatMap Action.lengths := by
  induction actions generalizing logs f with
  | nil => exact ⟨logs, rfl, h, rfl, by simp⟩
  | cons action actions ih =>
    obtain ⟨next, hact, hnext, hpath, hlengths⟩ := h.act action
    obtain ⟨after, hrun, hafter, hpath', hlengths'⟩ := ih hnext
    refine ⟨after, ?_, hafter, hpath'.trans hpath, ?_⟩
    · rw [Logs.run, List.foldlM_cons, hact]
      exact hrun
    · rw [hlengths', hlengths, List.flatMap_cons, List.append_assoc]

/-- New writers among files that have their own go through the same as its capped file. -/
theorem run_start {files : Files} {path : String} {initial : List UInt8}
    (hopen : files.OpensWith path initial) (maxLines : UInt32) (actions : List (Action k)) :
    ∃ contents after, (CappedFile.start k maxLines contents).bytes = initial ∧
      (start k path maxLines files).run actions = .ok after ∧
      after.lengths = actions.flatMap Action.lengths ∧
      after.files.OpensWith path ((CappedFile.start k maxLines contents).run actions).bytes ∧
      after.writers.pending = ((CappedFile.start k maxLines contents).run actions).pending := by
  obtain ⟨contents, hopened, hbytes⟩ := hopen
  have hstart : (start k path maxLines files).Finds (CappedFile.start k maxLines contents) :=
    ⟨hopened, rfl, rfl⟩
  obtain ⟨after, hrun, hafter, hpath, hlengths⟩ := hstart.run actions
  refine ⟨contents, after, hbytes, hrun, hlengths, ?_, hafter.pending⟩
  have hfound := hafter.opened
  rw [hpath] at hfound
  exact ⟨_, hfound, rfl⟩

end Logs
end Hush.Log
