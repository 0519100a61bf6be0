import Hush.Text.Parts
import Hush.Toml.Flaw

/-!
# Excerpts

A message about some bytes of a text is reported with the line they stand in and with marks below
them. Columns are counted in characters, but in bytes up to a character of several.
-/
namespace Hush.Toml

/-- A byte's line and column, both counted from zero, and the line itself. -/
structure Place where
  line : Nat
  column : Nat
  content : List Char
  deriving DecidableEq, Repr

namespace Place

/-- How many characters of a line stand in front of a byte; none when the byte is not the last one
of its character. -/
def charactersBefore? : (byte : Nat) → (passed : Nat) → List Char → Option Nat
  | byte, passed, [] => if byte = 0 then some passed else none
  | byte, passed, c :: cs =>
    if c.utf8Size ≤ byte then charactersBefore? (byte - c.utf8Size) (passed + 1) cs
    else if byte + 1 = c.utf8Size then some passed
    else none

/-- The place of a byte among lines, the first of which has the given number. -/
def among : (line byte : Nat) → List (List Char) → Place
  | line, byte, [] => ⟨line, byte, []⟩
  | line, byte, content :: rest =>
    if byte ≤ Text.byteLength content then
      ⟨line, (charactersBefore? byte 0 content).getD byte, content⟩
    else among (line + 1) (byte - Text.byteLength content - 1) rest

/-- The place of a byte of a text. A byte behind the end counts on from the last one. -/
def ofByte (text : String) (byte : Nat) : Place :=
  let last := min byte (text.utf8ByteSize - 1)
  let place := among 0 last (Text.parts '\n' text.toList)
  { place with column := place.column + (byte - last) }

end Place

def blanks (count : Nat) : String := String.ofList (List.replicate count ' ')

/-- A message about some bytes, with their line. Marks go no further than the line does, and there
is always one. -/
def excerpt (text : String) (span : Span) (message : String) : String :=
  let place := Place.ofByte text span.start
  let number := toString (place.line + 1)
  let gutter := blanks (number.length + 1) ++ "|"
  let room := Text.byteLength place.content - place.column
  let marks := max 1 (min (span.stop - span.start) room)
  s!"TOML parse error at line {number}, column {place.column + 1}\n" ++
    gutter ++ "\n" ++
    number ++ " | " ++ String.ofList place.content ++ "\n" ++
    gutter ++ blanks (place.column + 1) ++ String.ofList (List.replicate marks '^') ++ "\n" ++
    message ++ "\n"

/-- A message with its line if it is about any bytes. -/
def report (text : String) (span : Option Span) (message : String) : String :=
  match span with
  | some s => excerpt text s message
  | none => message ++ "\n"

end Hush.Toml
