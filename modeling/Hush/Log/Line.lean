import Hush.Log.Escape
import Hush.Log.Event

/-!
# Log lines

An event as one line of text: the time, the level, the thread, the origin and the message, followed
by the event's other fields. A coloured line has the same text with escape sequences around its
parts, and always ends with the sequence that switches colours off.
-/
namespace Hush.Log

/-- What a line says beside the event itself. -/
structure Stamp where
  time : String
  thread : Nat
  showLine : Option Nat → String

namespace Stamp

/-- A line number, or two question marks where there is none. -/
def lineNumber : Option Nat → String
  | some n => toString n
  | none => "??"

/-- A stamp that shows line numbers as they are. -/
def reading (time : String) : Stamp := ⟨time, 1, lineNumber⟩

end Stamp

/-- Text that is written in colour only. -/
def paint (coloured : Bool) (code : String) : String :=
  if coloured then "\x1b[" ++ code ++ "m" else ""

def Level.colour : Level → String
  | .error => "31"
  | .warn => "33"
  | .info => "32"
  | .debug => "34"
  | .trace => "35"

/-- The level's name in a column of five. -/
def Level.column (l : Level) : String := l.name ++ if l.name.length < 5 then " " else ""

/-- One field after the message. -/
def fieldText (coloured : Bool) (field : String × String) : String :=
  let reset := paint coloured "0"
  " " ++ paint coloured "3" ++ field.1 ++ reset ++ paint coloured "2" ++ "=" ++ reset ++ field.2

def line (coloured : Bool) (stamp : Stamp) (e : Event) : String :=
  let reset := paint coloured "0"
  let dim := paint coloured "2"
  dim ++ "[" ++ stamp.time ++ "]" ++ reset ++ " " ++
    paint coloured e.level.colour ++ paint coloured "1" ++ e.level.column ++ reset ++ " " ++
    "ThreadId(" ++ toString stamp.thread ++ ") " ++
    dim ++ e.target ++ ": " ++ stamp.showLine e.line ++ reset ++ " > " ++
    spelledOut e.message ++ String.join (e.fields.map (fieldText coloured)) ++ reset ++ "\n"

end Hush.Log
