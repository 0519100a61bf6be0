import Hush.Pattern.Atom

/-!
# Brackets

A class of characters in brackets: characters, ranges of them, named classes and further brackets,
with signs for what two sets have in common or not. What counts is where it ends, whether it is
allowed, and how deep it is nested: two or more members side by side are one level, as are the two
sides of a sign.
-/
namespace Hush.Pattern

/-- How deep parts side by side are nested. -/
def besides : List Nat → Nat
  | [] => 0
  | [depth] => depth
  | depths => depths.foldl max 0 + 1

/-- Brackets that are not yet closed: whether only hyphens were read so far, how deep the members
behind the last sign are nested, and what stands before that sign. -/
structure Brackets where
  opening : Bool
  members : List Nat
  before : Option Nat
  deriving DecidableEq, Repr

namespace Brackets

/-- Brackets that were opened just now. -/
def start : Brackets := ⟨true, [], none⟩

def add (b : Brackets) (depth : Nat) : Brackets := { b with members := depth :: b.members }

/-- How deep the brackets are nested inside. -/
def depth (b : Brackets) : Nat :=
  match b.before with
  | none => besides b.members
  | some before => max before (besides b.members) + 1

/-- A sign between two sets. -/
def sign (b : Brackets) : Brackets := ⟨false, [], some b.depth⟩

end Brackets

def classNames : List String :=
  ["alnum", "alpha", "ascii", "blank", "cntrl", "digit", "graph", "lower", "print", "punct",
    "space", "upper", "word", "xdigit"]

/-- A class named between colons, behind the bracket; whether it is negated. -/
def namedClass? : List Char → Option (Bool × List Char)
  | ':' :: cs =>
    let (negated, cs) := match cs with
      | '^' :: cs => (true, cs)
      | cs => (false, cs)
    match cs.span (· != ':') with
    | (name, ':' :: ']' :: rest) =>
      if classNames.contains (String.ofList name) then some (negated, rest) else none
    | _ => none
  | _ => none

/-- What follows the opening of brackets. -/
def opened (f : Flags) (cs : List Char) : Option (List Char) :=
  match skip f cs with
  | '^' :: rest => if f.unicode then some rest else none
  | rest => some rest

/-- An atom in brackets. -/
def bracketAtom (f : Flags) : List Char → Option (Atom × List Char)
  | [] => none
  | '\\' :: rest => escape f rest
  | c :: rest => some (.character c, rest)

/-- What follows a member that is an atom or a range between two characters. -/
def afterMember (f : Flags) (cs : List Char) : Option (List Char) := do
  let (first, rest) ← bracketAtom f cs
  if !first.isMember f then none
  match skip f rest with
  | '-' :: rest =>
    if peek f rest = some ']' ∨ peek f rest = some '-' then some ('-' :: rest)
    else
      let (last, rest) ← bracketAtom f (skip f rest)
      if last.isMember f && (← first.character?) ≤ (← last.character?) then some rest else none
  | rest => some rest

/-- How deep the outermost brackets are nested, and what follows them. A hyphen that nothing but
hyphens precedes stands for itself, and so does a closing bracket that nothing precedes. -/
def closed (f : Flags) : (fuel : Nat) → Brackets → (outer : List Brackets) → List Char →
    Option (Nat × List Char)
  | 0, _, _, _ => none
  | fuel + 1, b, outer, cs =>
    let signsAllowed := Atom.isMember f (.character '-')
    match skip f cs with
    | [] => none
    | c :: rest =>
      if b.opening && c = '-' then
        if signsAllowed then closed f fuel (b.add 0) outer rest else none
      else
        let isFirst := b.opening && b.members.isEmpty
        let b := { b with opening := false }
        if isFirst && c = ']' then
          if signsAllowed then closed f fuel (b.add 0) outer rest else none
        else if c = ']' then
          match outer with
          | [] => some (b.depth + 1, rest)
          | parent :: outer => closed f fuel (parent.add (b.depth + 1)) outer rest
        else if c = '[' then
          match namedClass? rest with
          | some (negated, rest) =>
            if (if f.unicode then f.ignoreCase else negated) then none
            else closed f fuel (b.add 0) outer rest
          | none => do closed f fuel .start (b :: outer) (← opened f rest)
        else if ['&', '-', '~'].contains c && rest.head? = some c then
          closed f fuel b.sign outer rest.tail
        else do closed f fuel (b.add 0) outer (← afterMember f (c :: rest))

/-- How deep brackets are nested, and what follows them, behind the first of them. -/
def brackets (f : Flags) (cs : List Char) : Option (Nat × List Char) := do
  closed f (cs.length + 1) .start [] (← opened f cs)

end Hush.Pattern
