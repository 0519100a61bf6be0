import Hush.Pattern.Brackets
import Hush.Text.Alphanumeric

/-!
# Patterns

Whether a text is a regular expression: atoms and brackets, groups with or without a name, what
repeats, and alternatives. A pattern is read once from left to right; of what is read, it is kept
how deep it is nested and whether it can be repeated. Counts of repetitions are not known.
-/
namespace Hush.Pattern

structure Part where
  depth : Nat
  repeatable : Bool
  deriving DecidableEq, Repr

/-- A group that is not yet closed, or the pattern itself: the flags in force, how deep the
alternatives before the present one are nested, and the parts of that, the last first. -/
structure Group where
  flags : Flags
  alternatives : List Nat
  parts : List Part
  deriving DecidableEq, Repr

namespace Group

/-- A group that was opened just now. -/
def start (f : Flags) : Group := ⟨f, [], []⟩

def add (g : Group) (p : Part) : Group := { g with parts := p :: g.parts }

/-- How deep the present alternative is nested. -/
def presentDepth (g : Group) : Nat := besides (g.parts.map (·.depth))

/-- How deep the group is nested inside. -/
def depth (g : Group) : Nat := besides (g.presentDepth :: g.alternatives)

/-- The beginning of a further alternative. -/
def alternative (g : Group) : Group :=
  { g with alternatives := g.presentDepth :: g.alternatives, parts := [] }

def repeated (g : Group) : Option Group :=
  match g.parts with
  | ⟨depth, true⟩ :: parts => some { g with parts := ⟨depth + 1, true⟩ :: parts }
  | _ => none

end Group

def flagLetters : List Char := ['i', 'm', 's', 'U', 'u', 'R', 'x']

def Flags.set (f : Flags) (letter : Char) (on : Bool) : Flags :=
  if letter = 'i' then { f with ignoreCase := on }
  else if letter = 'u' then { f with unicode := on }
  else if letter = 'x' then { f with spaced := on }
  else f

/-- Flags up to a bracket or a colon, which is left; those behind the hyphen are switched off. Each
is named once, and none is missing behind the hyphen. `read` has what was read before, the last
first. -/
def readFlags (f : Flags) (read : List Char) : List Char → Option (Flags × List Char)
  | [] => none
  | c :: cs =>
    if c = ':' || c = ')' then
      if read.head? = some '-' || (c = ')' && read.isEmpty) then none else some (f, c :: cs)
    else if read.contains c then none
    else if c = '-' then readFlags f (c :: read) cs
    else if flagLetters.contains c then readFlags (f.set c (!read.contains '-')) (c :: read) cs
    else none

/-- The text may be the name of a group. -/
def isGroupName : List Char → Bool
  | [] => false
  | c :: cs => (c == '_' || Text.isAlphabetic c) &&
      cs.all fun c => ['_', '.', '[', ']'].contains c || Text.isAlphanumeric c

/-- What stands behind the bracket that opens a group: flags for what follows, or flags for the
group or its name. -/
inductive Opening where
  | flags (f : Flags)
  | group (f : Flags)
  | named (name : List Char)

def groupName (cs : List Char) : Option (Opening × List Char) :=
  match cs.span (· != '>') with
  | (name, '>' :: rest) => if isGroupName name then some (.named name, rest) else none
  | _ => none

/-- What opens a group, behind its bracket. -/
def opening (f : Flags) (cs : List Char) : Option (Opening × List Char) :=
  match skip f cs with
  | '?' :: 'P' :: '<' :: rest => groupName rest
  | '?' :: '<' :: rest => groupName rest
  | '?' :: rest =>
    match readFlags f [] rest with
    | some (f, ')' :: rest) => some (.flags f, rest)
    | some (f, _ :: rest) => some (.group f, rest)
    | _ => none
  | rest => some (.group f, rest)

/-- A pattern that is being read: the innermost group, those around it, and the names given. -/
structure Progress where
  inner : Group
  outer : List Group
  names : List (List Char)
  deriving DecidableEq, Repr

namespace Progress

/-- Before the first character. -/
def start : Progress := ⟨.start .start, [], []⟩

def add (p : Progress) (part : Part) : Progress := { p with inner := p.inner.add part }

/-- In a new group. -/
def enter (p : Progress) (f : Flags) : Progress :=
  { p with inner := .start f, outer := p.inner :: p.outer }

/-- Behind what opens a group. -/
def opened (p : Progress) : Opening → Option Progress
  | .flags f => some { p with inner := { p.inner.add ⟨0, false⟩ with flags := f } }
  | .group f => some (p.enter f)
  | .named name =>
    if p.names.contains name then none
    else some { p.enter p.inner.flags with names := name :: p.names }

/-- Behind a group. -/
def leave (p : Progress) : Option Progress :=
  match p.outer with
  | [] => none
  | around :: outer =>
    some { p with inner := around.add ⟨p.inner.depth + 1, true⟩, outer }

/-- One step further: what was read, and the text left. -/
def next (p : Progress) (c : Char) (rest : List Char) : Option (Progress × List Char) := do
  let f := p.inner.flags
  let atom := fun (a : Atom) (rest : List Char) =>
    if a.isAllowed f then some (p.add ⟨0, true⟩, rest) else none
  if c = '(' then
    let (opening, rest) ← opening f rest
    return (← p.opened opening, rest)
  else if c = ')' then return (← p.leave, rest)
  else if c = '|' then return ({ p with inner := p.inner.alternative }, rest)
  else if c = '[' then
    let (depth, rest) ← brackets f rest
    return (p.add ⟨depth, true⟩, rest)
  else if ['?', '*', '+'].contains c then
    let inner ← p.inner.repeated
    return ({ p with inner }, if rest.head? = some '?' then rest.tail else rest)
  else if c = '\x7b' then none
  else if c = '\\' then
    let (a, rest) ← escape f rest
    atom a rest
  else if c = '.' then if f.unicode then return (p.add ⟨0, true⟩, rest) else none
  else if c = '^' || c = '$' then atom .place rest
  else atom (.character c) rest

/-- What is read of a text. -/
def run : (fuel : Nat) → Progress → List Char → Option Progress
  | 0, _, _ => none
  | fuel + 1, p, cs =>
    match skip p.inner.flags cs with
    | [] => some p
    | c :: rest => do
      let (p, rest) ← p.next c rest
      run fuel p rest

end Progress

/-- Patterns are nested no deeper than this. -/
def depthLimit : Nat := 250

/-- The text is a regular expression. -/
def isPattern (cs : List Char) : Bool :=
  match Progress.start.run (cs.length + 1) cs with
  | some p => p.outer.isEmpty && p.inner.depth ≤ depthLimit
  | none => false

end Hush.Pattern
