import Hush.Text.Blank
import Hush.Text.Ranges

/-!
# Atoms of a pattern

The smallest parts of a regular expression: characters, plain or spelled with a backslash, names of
classes, and places. Which of them a pattern may hold depends on its flags. Nothing is known of the
letter case and of the classes of characters outside ASCII, so patterns that would need that are
refused: those that ignore case or name a class, unless they are for ASCII alone. Patterns for
ASCII alone never match a part of a character, so they may not name bytes above it or leave
characters out.
-/
namespace Hush.Pattern

/-- The flags on which it depends what a pattern may hold. -/
structure Flags where
  ignoreCase : Bool
  unicode : Bool
  spaced : Bool
  deriving DecidableEq, Repr

/-- The flags at the beginning of a pattern. -/
def Flags.start : Flags := ⟨false, true, false⟩

/-- The text without blanks and comments in front; `inComment` says whether it begins in one. -/
def skipFrom : (inComment : Bool) → List Char → List Char
  | _, [] => []
  | true, c :: cs => skipFrom (c != '\n') cs
  | false, c :: cs =>
    if Text.isBlank c then skipFrom false cs
    else if c = '#' then skipFrom true cs
    else c :: cs

/-- The text without what a pattern may be spaced with. -/
def skip (f : Flags) (cs : List Char) : List Char := if f.spaced then skipFrom false cs else cs

/-- The character that follows blanks and the sign of a comment. When nothing follows, it is the
first. -/
def peek (f : Flags) (cs : List Char) : Option Char :=
  if f.spaced then
    let rest := match cs.dropWhile Text.isBlank with
      | '#' :: comment => comment.dropWhile Text.isBlank
      | rest => rest
    (rest ++ cs).head?
  else cs.head?

/-- A smallest part of a pattern. A byte is a character spelled with two digits. -/
inductive Atom where
  | character (c : Char)
  | byte (c : Char)
  | namedClass (negated : Bool)
  | place
  | wordEdge
  deriving DecidableEq, Repr

namespace Atom

def isAllowed (f : Flags) : Atom → Bool
  | character _ => !(f.unicode && f.ignoreCase)
  | byte c => if f.unicode then !f.ignoreCase else c.toNat < 0x80
  | namedClass negated => !f.unicode && !negated
  | place => true
  | wordEdge => !f.unicode

def isMember (f : Flags) : Atom → Bool
  | character c => if f.unicode then !f.ignoreCase else c.toNat < 0x80
  | byte c => if f.unicode then !f.ignoreCase else c.toNat < 0x80
  | namedClass negated => !f.unicode && !negated
  | place => false
  | wordEdge => false

def character? : Atom → Option Char
  | character c => some c
  | byte c => some c
  | _ => none

end Atom

def hexValue? (c : Char) : Option Nat :=
  if c.isDigit then some (c.toNat - '0'.toNat)
  else if 'a' ≤ c ∧ c ≤ 'f' then some (c.toNat - 'a'.toNat + 10)
  else if 'A' ≤ c ∧ c ≤ 'F' then some (c.toNat - 'A'.toNat + 10)
  else none

/-- The number that so many digits stand for, on top of those already read. -/
def hexNumber (f : Flags) : (count : Nat) → (read : Nat) → List Char → Option (Nat × List Char)
  | 0, n, cs => some (n, cs)
  | _ + 1, _, [] => none
  | count + 1, n, c :: cs => do hexNumber f count (n * 16 + (← hexValue? c)) (skip f cs)

def coded (f : Flags) (count : Nat) (cs : List Char) : Option (Char × List Char) := do
  let (n, rest) ← hexNumber f count 0 (skip f cs)
  if n.isValidChar then some (Char.ofNat n, rest) else none

/-- The letters that stand for a control character behind a backslash. -/
def controls : List (Char × Char) :=
  [('a', '\x07'), ('f', '\x0c'), ('t', '\t'), ('n', '\n'), ('r', '\r'), ('v', '\x0b')]

/-- What a backslash and the text behind it stand for. -/
def escape (f : Flags) : List Char → Option (Atom × List Char)
  | [] => none
  | c :: rest =>
    if c = 'x' then (coded f 2 rest).map fun (c, rest) => (.byte c, rest)
    else if c = 'u' then (coded f 4 rest).map fun (c, rest) => (.character c, rest)
    else if c = 'U' then (coded f 8 rest).map fun (c, rest) => (.character c, rest)
    else if ['d', 's', 'w'].contains c then some (.namedClass false, rest)
    else if ['D', 'S', 'W'].contains c then some (.namedClass true, rest)
    else if ['A', 'z'].contains c then some (.place, rest)
    else if ['b', 'B', '<', '>'].contains c then some (.wordEdge, rest)
    else if c.toNat < 0x80 && !c.isAlphanum then some (.character c, rest)
    else (controls.lookup c).map fun control => (.character control, rest)

end Hush.Pattern
