/-!
# Events

What the library reports while it works: a message at a level, from a named part of the program,
with further fields as text.
-/
namespace Hush.Log

/-- How important an event is, the most important first. -/
inductive Level where
  | error | warn | info | debug | trace
  deriving DecidableEq, Repr

namespace Level

/-- The levels from the most to the least important. -/
def all : List Level := [error, warn, info, debug, trace]

/-- The level's place in that order. -/
def rank : Level → Nat
  | error => 1
  | warn => 2
  | info => 3
  | debug => 4
  | trace => 5

def name : Level → String
  | error => "ERROR"
  | warn => "WARN"
  | info => "INFO"
  | debug => "DEBUG"
  | trace => "TRACE"

end Level

structure Event where
  level : Level
  target : String
  line : Option Nat
  message : String
  fields : List (String × String)
  deriving DecidableEq, Repr

/-- The names of the event's fields. The message is one of them. -/
def Event.fieldNames (e : Event) : List String := "message" :: e.fields.map (·.1)

/-- An event of the library itself, which does not say at which line it was made. -/
def Event.plain (level : Level) (target message : String) : Event :=
  ⟨level, target, none, message, []⟩

end Hush.Log
