import Hush.Log.Session
import Hush.Proofs.Log.Escapes
import Hush.Proofs.Log.Writing

/-!
# Printed lines in the log file

What the log file gets of a printed line is the line with its newline, less the escape sequences in
both. A sequence that the line does not end takes the newline with it, and then the next line goes
on where this one stops. Every other line is ended, and what is printed after it begins a line.
-/
namespace Hush.Log

/-- What the log file is handed of a line that is printed. -/
def handed (text : String) : List UInt8 := Session.fileBytes (text ++ "\n")

theorem handed_eq (text : String) :
    handed text =
      Session.fileBytes text ++ if endsInside false text.toList then [] else [newline] := by
  have hend : "\n".toList = ['\n'] := by decide
  have hnewline : String.utf8EncodeChar '\n' = [newline] := by decide
  have hstrip : stripFrom (endsInside false text.toList) ['\n'] =
      if endsInside false text.toList then [] else ['\n'] := by
    cases endsInside false text.toList <;> decide
  rw [handed, Session.fileBytes, Session.fileBytes, strip, strip, Text.encode, Text.encode,
    String.toList_ofList, String.toList_ofList, String.toList_append, hend, stripFrom_append,
    List.flatMap_append, hstrip]
  cases endsInside false text.toList <;> simp [hnewline]

theorem handed_of_leavesOpen {text : String} (h : LeavesOpen text.toList) :
    handed text = Session.fileBytes text := by
  rw [handed_eq, (endsInside_iff_leavesOpen _).mpr h, if_pos rfl, List.append_nil]

theorem handed_of_not_leavesOpen {text : String} (h : ¬ LeavesOpen text.toList) :
    handed text = Session.fileBytes text ++ [newline] := by
  rw [handed_eq, if_neg (mt (endsInside_iff_leavesOpen _).mp h)]

/-! ### A file that is handed lines -/

theorem ofLines_ends (lines : List (List UInt8)) :
    ofLines lines = [] ∨ (ofLines lines).getLast? = some newline := by
  rcases List.eq_nil_or_concat lines with rfl | ⟨older, line, rfl⟩
  · exact Or.inl rfl
  · right
    simp [ofLines]

theorem cutBack_ends {bytes : List UInt8} (h : bytes.getLast? = some newline) (cap : Nat) :
    cutBack cap bytes = [] ∨ (cutBack cap bytes).getLast? = some newline := by
  unfold cutBack
  split
  · dsimp only
    split
    · exact ofLines_ends _
    · exact Or.inr h
  · exact Or.inr h

namespace CappedFile

/-- After a buffer that ends with a newline the file ends with one, if there is anything in it. -/
theorem write_ends (f : CappedFile) (writer : Nat) {buffer : List UInt8}
    (h : buffer.getLast? = some newline) :
    (f.write writer buffer).bytes = [] ∨
      (f.write writer buffer).bytes.getLast? = some newline := by
  have hgrown : (f.bytes ++ buffer).getLast? = some newline := by
    rw [List.getLast?_append, h]
    rfl
  rw [bytes_write]
  split
  · exact cutBack_ends hgrown _
  · exact Or.inr hgrown

/-- A buffer handed to the first writer, who leaves the file alone when there is nothing in it. -/
def receive (f : CappedFile) (buffer : List UInt8) : CappedFile :=
  if buffer.isEmpty then f else f.write 0 buffer

theorem receive_ends (f : CappedFile) {buffer : List UInt8}
    (h : buffer.getLast? = some newline) :
    (f.receive buffer).bytes = [] ∨ (f.receive buffer).bytes.getLast? = some newline := by
  have hsome : buffer.isEmpty = false := by
    rw [List.isEmpty_eq_false_iff]
    rintro rfl
    cases h
  rw [receive, hsome]
  exact f.write_ends 0 h

end CappedFile

/-! ### A session that logs to a file -/

namespace Session

/-- The session has a log file, which is in a state. -/
structure LogsTo (s : Session) (path : String) (f : CappedFile) : Prop where
  logger : ∃ filter, s.logger = some ⟨filter, some ⟨path, f.maxLines, f.pending⟩⟩
  opened : s.files.opened path = .ok f.contents

variable {s : Session} {path : String} {f : CappedFile}

theorem LogsTo.append (h : s.LogsTo path f) (bytes : List UInt8) :
    (s.append bytes).LogsTo path (f.receive bytes) := by
  obtain ⟨filter, hlogger⟩ := h.logger
  simp only [Session.append, hlogger, CappedFile.receive]
  split
  · exact h
  · obtain ⟨files, happend, hopened⟩ :=
      Writers.append_of_opened (w := ⟨path, f.maxLines, f.pending⟩) h.opened 0 bytes
    simp only [Writers.write, happend, bind, Except.bind, pure, Except.pure]
    refine ⟨⟨filter, ?_⟩, hopened⟩
    rw [CappedFile.maxLines_write]
    rfl

theorem LogsTo.printLine (h : s.LogsTo path f) (text : String) :
    (s.printLine text).LogsTo path (f.receive (handed text)) := by
  have hprint : (s.print (text ++ "\n")).LogsTo path f := ⟨h.logger, h.opened⟩
  exact hprint.append (handed text)

def printLines (s : Session) (texts : List String) : Session := texts.foldl printLine s

theorem LogsTo.printLines (h : s.LogsTo path f) (texts : List String) :
    (s.printLines texts).LogsTo path ((texts.map handed).foldl CappedFile.receive f) := by
  induction texts generalizing s f with
  | nil => exact h
  | cons text texts ih =>
    have hrest := ih (h.printLine text)
    rwa [List.map_cons, List.foldl_cons]

/-- A session set up with a log file has one writer, who has counted nothing. -/
theorem logsTo_of_begin {after : Session} {given : Option String} {c : Config}
    {file : Config.LogFileSettings} (hfile : c.logging.bind (·.file) = some file)
    (h : s.begin given c = some after) {contents : Option Contents}
    (hopen : after.files.opened file.path = .ok contents) :
    after.LogsTo file.path (.start 1 file.maxLines contents) := by
  refine ⟨?_, hopen⟩
  by_cases hsome : s.logger.isSome
  · simp [begin, hsome] at h
  · cases hfilter : (filterFor given c.logging).toOption with
    | none => simp [begin, hfilter] at h
    | some filter =>
      simp [begin, hsome, hfile, hfilter] at h
      exact ⟨filter, by rw [← h]; rfl⟩

end Session

/-- Printed lines stay apart in the log file unless one of them leaves a sequence open. The file
goes through what it is handed of each line, which ends with a newline where no sequence is left
open. Where one is, the newline is lost. After a line of the first kind the file is at the end of a
line, so the next line shares none with it. -/
theorem printed_lines_stay_apart {s after : Session} {given : Option String} {c : Config}
    {file : Config.LogFileSettings} {initial : List UInt8}
    (hfile : c.logging.bind (·.file) = some file) (hbegin : s.begin given c = some after)
    (hopen : after.files.OpensWith file.path initial) (texts : List String) :
    (∀ text, ¬ LeavesOpen text.toList → handed text = Session.fileBytes text ++ [newline]) ∧
    (∀ text, LeavesOpen text.toList → handed text = Session.fileBytes text) ∧
    ∃ contents, (CappedFile.start 1 file.maxLines contents).bytes = initial ∧
      let kept := (texts.map handed).foldl CappedFile.receive (.start 1 file.maxLines contents)
      (after.printLines texts).files.OpensWith file.path kept.bytes ∧
      ∀ text, texts.getLast? = some text → ¬ LeavesOpen text.toList →
        kept.bytes = [] ∨ kept.bytes.getLast? = some newline := by
  obtain ⟨contents, hopened, hinitial⟩ := hopen
  have hlogs := (Session.logsTo_of_begin hfile hbegin hopened).printLines texts
  refine ⟨fun text h => handed_of_not_leavesOpen h, fun text h => handed_of_leavesOpen h, contents,
    hinitial, ⟨_, hlogs.opened, rfl⟩, ?_⟩
  intro text hlast hclosed
  obtain ⟨earlier, rfl⟩ := List.getLast?_eq_some_iff.mp hlast
  have hended : (handed text).getLast? = some newline := by
    rw [handed_of_not_leavesOpen hclosed, List.getLast?_concat]
  simp only [List.map_append, List.foldl_append, List.map_cons, List.map_nil, List.foldl_cons,
    List.foldl_nil]
  exact CappedFile.receive_ends _ hended

/-- A coloured line behind one that leaves a sequence open is ended all the same. -/
theorem printed_lines_stay_apart_coloured :
    let c : Config := { logging := some { file := some ⟨"a", 100⟩ } }
    let texts := ["b\x1b[", "\x1b[1mc\x1b[0m"]
    ∃ s bytes, (Session.start (.reading "") []).begin none c = some s ∧
      (s.printLines texts).files.OpensWith "a" bytes ∧
      (bytes = [] ∨ bytes.getLast? = some newline) := by
  intro c texts
  have hfilter : (Session.filterFor none c.logging).toOption =
      some ⟨[⟨[], .all, some .info⟩]⟩ := by decide +kernel
  have hparent : Files.makeParent [] "a" = [] := by decide +kernel
  have hbegin : (Session.start (.reading "") []).begin none c = some ⟨.reading "", [], "",
      some ⟨⟨[⟨[], .all, some .info⟩]⟩, some (.single "a" 100)⟩⟩ := by
    simp [Session.begin, Session.start, hfilter, hparent, c]
  obtain ⟨-, -, contents, -, hfile, hend⟩ :=
    printed_lines_stay_apart rfl hbegin ⟨none, rfl, rfl⟩ texts
  have hclosed : ¬ LeavesOpen "\x1b[1mc\x1b[0m".toList := by
    rw [← endsInside_iff_leavesOpen]
    decide +kernel
  have hlast : texts.getLast? = some "\x1b[1mc\x1b[0m" := rfl
  exact ⟨_, _, hbegin, hfile, hend _ hlast hclosed⟩

/-- A line that leaves a sequence open shares its line of the file with the next. -/
theorem open_escape_joins_lines :
    let c : Config := { logging := some { file := some ⟨"a", 100⟩ } }
    let begun := (Session.start (.reading "") []).begin none c
    (handed "b\x1b[").getLast? = some 98 ∧
      begun.bind (fun s => ((s.printLines ["b\x1b[", "c"]).files.read "a").toOption) =
        some [98, 99, newline] :=
  ⟨by decide +kernel, by decide +kernel⟩

end Hush.Log
