/-!
# Parts of a text

What stands between the separators of a text, and what stands between two of its places. A place is
counted in bytes, and none is found between two bytes of one character.
-/
namespace Hush.Text

/-- What is before, between and behind the separators. There is always one part at least. -/
def parts (separator : Char) : List Char → List (List Char)
  | [] => [[]]
  | c :: cs =>
    if c = separator then [] :: parts separator cs
    else match parts separator cs with
      | part :: rest => (c :: part) :: rest
      | [] => [[c]]

def byteLength : List Char → Nat
  | [] => 0
  | c :: cs => c.utf8Size + byteLength cs

/-- The text cut behind its first `n` bytes; none when the cut goes through a character. -/
def cut? (n : Nat) : List Char → Option (List Char × List Char)
  | [] => some ([], [])
  | c :: cs =>
    if n = 0 then some ([], c :: cs)
    else if c.utf8Size ≤ n then
      (cut? (n - c.utf8Size) cs).map fun (front, rest) => (c :: front, rest)
    else none

/-- The text between two places. -/
def between? (first last : Nat) (cs : List Char) : Option (List Char) := do
  let (front, _) ← cut? last cs
  let (_, text) ← cut? first front
  some text

def from? (first : Nat) (cs : List Char) : Option (List Char) := (cut? first cs).map (·.2)

end Hush.Text
