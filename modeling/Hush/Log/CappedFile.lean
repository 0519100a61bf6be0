import Hush.Files.Change

/-!
# Line-capped log files

A writer appends to a file and now and then cuts it back to its newest lines. It counts the
newlines it has written since it last did so, and cuts when the count reaches a tenth of the cap,
or fifty if that is more. A file that is no text is never cut.
-/
namespace Hush.Log

def newline : UInt8 := 10

/-- The byte that may stand before it. -/
def carriageReturn : UInt8 := 13

/-- A line read in reverse, without the carriage return before its end. -/
def endedLine : List UInt8 → List UInt8
  | [] => []
  | b :: bs => if b = carriageReturn then bs.reverse else (b :: bs).reverse

/-- The lines of a text, the first of which begins with the bytes already read in reverse. What
comes after the last newline is a line as well, unless it is empty. -/
def linesFrom : (read : List UInt8) → List UInt8 → List (List UInt8)
  | [], [] => []
  | read, [] => [read.reverse]
  | read, b :: bs =>
    if b = newline then endedLine read :: linesFrom [] bs else linesFrom (b :: read) bs

/-- The lines of a text, without their ends. -/
def linesOf (bytes : List UInt8) : List (List UInt8) := linesFrom [] bytes

/-- Lines put together again, each ended by a newline. -/
def ofLines (lines : List (List UInt8)) : List UInt8 := lines.flatMap (· ++ [newline])

/-- The last `count` members of a list. -/
def newest {α : Type} (count : Nat) (xs : List α) : List α := xs.drop (xs.length - count)

/-- A text cut back to its newest lines; left as it is when it has no more, or is no text. -/
def cutBack (cap : Nat) (bytes : List UInt8) : List UInt8 :=
  if Text.isText bytes then
    let lines := linesOf bytes
    if cap < lines.length then ofLines (newest cap lines) else bytes
  else bytes

def newlines (bytes : List UInt8) : Nat := bytes.count newline

/-- The number of new lines after which a file is cut back. -/
def cutThreshold (maxLines : UInt32) : UInt32 := max (maxLines / 10) 50

/-- A file, if there is one, and the newlines that each of its writers has counted since it last cut
the file back. Writers that share a counter are one here. -/
structure CappedFile where
  maxLines : UInt32
  contents : Option Contents
  pending : List UInt32
  deriving DecidableEq

namespace CappedFile

/-- What is in the file; nothing when there is no file. -/
def current (f : CappedFile) : Contents := f.contents.getD .empty

/-- The bytes of the file; none when there is no file. -/
def bytes (f : CappedFile) : List UInt8 := f.current.bytes

/-- What a writer has counted once it has appended a buffer. -/
def counted (f : CappedFile) (writer : Nat) (buffer : List UInt8) : UInt32 :=
  f.pending.getD writer 0 + UInt32.ofNat (newlines buffer)

/-- Appends a buffer through one writer, and cuts the file back if that is due. -/
def write (f : CappedFile) (writer : Nat) (buffer : List UInt8) : CappedFile :=
  let grown := f.current.append buffer
  let counted := f.counted writer buffer
  if cutThreshold f.maxLines ≤ counted then
    { f with
      contents := some (.ofBytes (cutBack f.maxLines.toNat grown.bytes))
      pending := f.pending.set writer 0 }
  else { f with contents := some grown, pending := f.pending.set writer counted }

/-- After a write the file holds what it held and the buffer, cut back if that was due. -/
theorem bytes_write (f : CappedFile) (writer : Nat) (buffer : List UInt8) :
    (f.write writer buffer).bytes =
      if cutThreshold f.maxLines ≤ f.counted writer buffer then
        cutBack f.maxLines.toNat (f.bytes ++ buffer)
      else f.bytes ++ buffer := by
  split <;> simp [write, bytes, current, *]

/-- The file removed by someone else. -/
def removed (f : CappedFile) : CappedFile := { f with contents := none }

end CappedFile

/-- Writers on one path with one cap, each known by its counter. -/
structure Writers where
  path : String
  maxLines : UInt32
  pending : List UInt32
  deriving DecidableEq

namespace Writers

def single (path : String) (maxLines : UInt32) : Writers := ⟨path, maxLines, [0]⟩

/-- A further writer with a counter of its own. -/
def add (w : Writers) : Writers := { w with pending := w.pending ++ [0] }

/-- The file that the writers find. -/
def finding (w : Writers) (contents : Option Contents) : CappedFile :=
  ⟨w.maxLines, contents, w.pending⟩

/-- What a write hands back: the writers and the files after it, and how many bytes it took. -/
structure Written where
  writers : Writers
  files : Files
  length : Nat

/-- Appends a buffer through one writer, which takes all of it. Nothing changes when the file cannot
be opened. -/
def append (w : Writers) (files : Files) (writer : Nat) (buffer : List UInt8) :
    Except FileError Written := do
  let after := (w.finding (← files.opened w.path)).write writer buffer
  return ⟨{ w with pending := after.pending }, ← files.store w.path after.current, buffer.length⟩

/-- The writers and the files after a write whose length nobody asks for. -/
def write (w : Writers) (files : Files) (writer : Nat) (buffer : List UInt8) :
    Except FileError (Writers × Files) := do
  let out ← w.append files writer buffer
  return (out.writers, out.files)

end Writers
end Hush.Log
