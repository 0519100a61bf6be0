/-!
# Readers

A reader takes a value off the front of a text and gives it with what is left. Here is also what
the parts of a line are told apart by: spaces and control characters.
-/
namespace Hush.Toml

/-- Takes a value off the front of a text. -/
abbrev Reader (α : Type) := List Char → Option (α × List Char)

/-- A reader's values one after the other, on top of those already read in reverse, as long as
there is one and the text has not ended. There are no more of them than `budget` is long. -/
def manyOnto {α : Type} (read : Reader α) :
    (budget : List Char) → List Char → (found : List α) → List α × List Char
  | [], cs, found => (found.reverse, cs)
  | _ :: _, [], found => (found.reverse, [])
  | _ :: budget, c :: cs, found =>
    match read (c :: cs) with
    | none => (found.reverse, c :: cs)
    | some (a, rest) => manyOnto read budget rest (a :: found)

/-- A reader's values one after the other, up to where it has none. The text itself is the budget,
since every value takes a character at least. -/
def many {α : Type} (read : Reader α) (cs : List Char) : List α × List Char :=
  manyOnto read cs cs []

def isSpace (c : Char) : Bool := c == ' ' || c == '\t'

/-- A control character other than the tab, which may stand nowhere. -/
def isControl (c : Char) : Bool := (c.toNat < 0x20 && c != '\t') || c.toNat == 0x7F

end Hush.Toml
