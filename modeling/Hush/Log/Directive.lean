import Hush.Log.Event
import Hush.Pattern
import Hush.Text.Numeral
import Hush.Text.Parts

/-!
# Directives

A directive says up to which level events pass: of every target, of the targets that begin with a
name, of those that have a field, or inside of spans. The places of its parts are found in the
directive without the blanks around it, but the parts are taken at those places from the directive
as it stands. Blanks in front of it therefore shift the parts, and a part may begin or end between
two bytes of one character; such a directive is worse than malformed.
-/
namespace Hush.Log

inductive Refusal where
  | malformed | brokenCharacter
  deriving DecidableEq, Repr

/-- The events of its targets that a directive speaks of. -/
inductive Scope where
  | all
  | withField (name : List Char)
  | inSpans
  deriving DecidableEq, Repr

/-- Up to which level events pass; `none` lets nothing pass. -/
structure Directive where
  target : List Char
  scope : Scope
  level : Option Level
  deriving DecidableEq, Repr

namespace Directive

/-- A digit that names a level: its rank, or zero for none. -/
def ofRank? (n : Nat) : Option (Option Level) :=
  if n = 0 then some none else (Level.all.find? fun l => l.rank == n).map some

/-- The number that decimal digits stand for. A plus sign may stand in front. -/
def count? (cs : List Char) : Option Nat :=
  let digits := match cs with
    | '+' :: rest => rest
    | rest => rest
  if digits.isEmpty || !digits.all Char.isDigit then none
  else some (digits.foldl (fun n c => n * 10 + (c.toNat - '0'.toNat)) 0)

/-- The level of a name in any letter case, of `off`, or of a digit. -/
def level? (cs : List Char) : Option (Option Level) :=
  match count? cs with
  | some n => ofRank? n
  | none =>
    if Text.foldCase cs = "off".toList then some none
    else (Level.all.find? fun l => Text.foldCase l.name.toList == Text.foldCase cs).map some

/-- The part of a directive between two places. -/
def part (cs : List Char) (first last : Nat) : Except Refusal (List Char) :=
  match Text.between? first last cs with
  | some text => .ok text
  | none => .error .brokenCharacter

/-- The level that a directive ends with. Everything passes when nothing is said. -/
def levelFrom (cs : List Char) (first : Nat) : Except Refusal (Option Level) :=
  match Text.from? first cs with
  | none => .error .brokenCharacter
  | some [] => .ok (some .trace)
  | some text => match level? text with
    | some level => .ok level
    | none => .error .malformed

/-- What stands behind the brackets: nothing, or a level. -/
def afterBrackets (cs : List Char) (place : Nat) : List Char → Except Refusal (Option Level)
  | [] => .ok (some .trace)
  | c :: _ => if c = '=' then levelFrom cs (place + 1) else .error .malformed

/-- A field may be asked to have a value: a number, or what a pattern matches. -/
def isFieldValue (cs : List Char) : Bool := Text.isNumeral cs || Pattern.isPattern cs

/-- What brackets around a span's name and a field limit a directive to. A field with a value is
looked for in spans alone. -/
def scopeOf (span field : List Char) : Except Refusal Scope :=
  match Text.parts '=' field with
  | _ :: value :: _ => if isFieldValue value then .ok .inSpans else .error .malformed
  | _ => .ok (if span.isEmpty then .withField field else .inSpans)

/-- The scope and the level of a directive whose bracket ends before a place, followed by the rest
of the text. -/
def bracketed (cs : List Char) (place : Nat) (rest : List Char) :
    Except Refusal (Scope × Option Level) := do
  let name := rest.takeWhile fun c => c != ']' && c != '\x7b'
  let nameEnd := place + Text.byteLength name
  match rest.drop name.length with
  | [] => throw .malformed
  | mark :: rest =>
    let span ← part cs place nameEnd
    if mark = ']' then return (.inSpans, ← afterBrackets cs (nameEnd + 1) rest)
    let inside := rest.takeWhile (· != '}')
    let fieldEnd := nameEnd + 1 + Text.byteLength inside
    match rest.drop inside.length with
    | [] => throw .malformed
    | _ :: rest =>
      let field ← part cs (nameEnd + 1) fieldEnd
      match field, rest with
      | _ :: _, ']' :: rest =>
        let scope ← scopeOf span field
        return (scope, ← afterBrackets cs (fieldEnd + 2) rest)
      | _, _ => throw .malformed

def begins (c : Char) : Bool := c == '-' || c == ':' || c == '_' || Text.isAlphanumeric c

/-- The directive that a text spells: a level, or a target, or a target with brackets, a level or
both behind it. Brackets may also stand alone. -/
def parse (cs : List Char) : Except Refusal Directive := do
  match Text.trim cs with
  | [] => throw .malformed
  | c :: rest =>
    if c = '[' then
      let (scope, level) ← bracketed cs 1 rest
      return ⟨[], scope, level⟩
    if !begins c then throw .malformed
    let name := (c :: rest).takeWhile fun c => c != '=' && c != '['
    let place := Text.byteLength name
    match (c :: rest).drop name.length with
    | [] =>
      match level? cs with
      | some level => return ⟨[], .all, level⟩
      | none => return ⟨cs, .all, some .trace⟩
    | mark :: rest =>
      let target ← part cs 0 place
      if mark = '=' then return ⟨target, .all, ← levelFrom cs (place + 1)⟩
      let (scope, level) ← bracketed cs (place + 1) rest
      return ⟨target, scope, level⟩

/-- The directive speaks of an event. No event is inside of a span. -/
def concerns (d : Directive) (e : Event) : Bool :=
  d.target.isPrefixOf e.target.toList &&
    match d.scope with
    | .all => true
    | .withField name => (e.fieldNames.map String.toList).contains name
    | .inSpans => false

/-- Events of the level pass. -/
def passes (d : Directive) (level : Level) : Bool := d.level.any fun l => level.rank ≤ l.rank

/-- The name of the field that a directive asks for. -/
def field? (d : Directive) : Option (List Char) :=
  match d.scope with
  | .withField name => some name
  | _ => none

/-- One directive is at least as specific as another: its target is longer, or of two targets that
are as long its field comes no earlier in the alphabet. Having no field comes first. -/
def atLeastAsSpecific (d other : Directive) : Bool :=
  if d.target.length = other.target.length then
    match other.field?, d.field? with
    | none, _ => true
    | some _, none => false
    | some first, some second => !(second < first)
  else other.target.length < d.target.length

end Directive
end Hush.Log
