import Hush.Decimal
import Hush.Text.Quoted
import Hush.Toml.Value

/-!
# Values of the wrong kind

What can be wrong with a value where a text, a truth value, a number or a record is wanted, and how
that is reported. A record is a table read by key, or an array read by place; a date or time is
read as a table without keys.
-/
namespace Hush.Toml

inductive Wanted where
  | text | boolean | word32 | word64 | size | signed64
  | record (name : String)
  deriving DecidableEq, Repr

def Wanted.name : Wanted → String
  | text => "a string"
  | boolean => "a boolean"
  | word32 => "u32"
  | word64 => "u64"
  | size => "usize"
  | signed64 => "i64"
  | record name => s!"struct {name}"

/-- The words for what was found. Only numbers that no word of 64 bits holds say so. -/
def Value.found : Value → String
  | text s => s!"string {Text.quoted s}"
  | integer n =>
    s!"integer `{n}`" ++
      if -Value.signedEnd ≤ n ∧ n < Value.wordEnd then ""
      else if n < Value.doubleEnd then " as i128" else " as u128"
  | float x => s!"floating point `{Decimal.shortestWithPoint x}`"
  | boolean true => "boolean `true`"
  | boolean false => "boolean `false`"
  | unreadable kind => s!"{(Value.unreadable kind).kind}"
  | array _ => "sequence"
  | dateTime _ | table _ => "map"

inductive Mismatch where
  | overflow (kind : NumberKind)
  | wrongType (found : Value) (wanted : Wanted)
  | outOfRange (n : Int) (wanted : Wanted)
  | tooShort (length : Nat) (record : String) (fields : Nat)
  | missing (field : String)
  | unknownChoice (given : String) (known : List String)
  | noChoice
  | choiceCount (keys : Nat)
  | choiceHolds (v : Value)
  | refused (reason : String)

def Mismatch.message : Mismatch → String
  | overflow .integer => "integer number overflowed"
  | overflow .float => "floating-point number overflowed"
  | wrongType v wanted => s!"invalid type: {v.found}, expected {wanted.name}"
  | outOfRange n wanted => s!"invalid value: integer `{n}`, expected {wanted.name}"
  | tooShort length record fields =>
    s!"invalid length {length}, expected struct {record} with {fields} " ++
      if fields = 1 then "element" else "elements"
  | missing field => s!"missing field `{field}`"
  | unknownChoice given known =>
    s!"unknown variant `{given}`, expected one of " ++
      ", ".intercalate (known.map fun k => s!"`{k}`")
  | noChoice => "wanted string or table"
  | choiceCount keys =>
    "wanted exactly 1 element, " ++ if keys = 0 then "found 0 elements" else "more than 1 element"
  | choiceHolds v =>
    match v with
    | .table _ => "expected empty table"
    | .array _ => "expected empty array"
    | _ => s!"expected table, found {v.kind}"
  | refused reason => reason

/-- A mismatch and the steps that lead to what it is about. -/
structure Misfit where
  steps : List Step
  cause : Mismatch

namespace Misfit

/-- The misfit seen from one step further outside. -/
def behind (m : Misfit) (step : Step) : Misfit := { m with steps := step :: m.steps }

/-- The misfit of an item seen from its array. What a value was refused for is taken to be about the
array as a whole. -/
def inItem (m : Misfit) (place : Nat) : Misfit :=
  match m with
  | ⟨[], .refused _⟩ => m
  | m => m.behind (.item place)

/-- Which of two misfits of one table is noticed first: the one with the lesser key. What is about
the table itself is noticed last. -/
def earlier (m n : Misfit) : Misfit :=
  match m.steps, n.steps with
  | .key j :: _, .key k :: _ => if k < j then n else m
  | [], .key _ :: _ => n
  | _, _ => m

end Misfit

/-- A mismatch of a value as a whole. -/
def Mismatch.here {α : Type} (m : Mismatch) : Except Misfit α := .error ⟨[], m⟩

namespace Value

mutual
/-- What there is in a value that cannot be read. -/
def trouble? : Value → Option Misfit
  | unreadable kind => some ⟨[], .overflow kind⟩
  | array items => itemTrouble? 0 items
  | table entries => entryTrouble? entries
  | _ => none

/-- What cannot be read in the first such item; `place` is the place of the first one. -/
def itemTrouble? (place : Nat) : List Value → Option Misfit
  | [] => none
  | v :: rest =>
    match trouble? v with
    | some m => some (m.behind (.item place))
    | none => itemTrouble? (place + 1) rest

/-- What cannot be read in the entry with the least key that has something of the kind. -/
def entryTrouble? : List (String × Value) → Option Misfit
  | [] => none
  | (key, v) :: rest =>
    match (trouble? v).map (·.behind (.key key)), entryTrouble? rest with
    | some m, some n => some (m.earlier n)
    | some m, none => some m
    | none, found => found
end

/-- A value of another kind than the wanted one. -/
def unwanted {α : Type} (wanted : Wanted) : Value → Except Misfit α
  | unreadable kind => Mismatch.here (.overflow kind)
  | v => Mismatch.here (.wrongType v wanted)

def asText : Value → Except Misfit String
  | text s => .ok s
  | v => v.unwanted .text

def asBoolean : Value → Except Misfit Bool
  | boolean b => .ok b
  | v => v.unwanted .boolean

/-- The whole number of a value, from `low` up to but not including `high`. A number that no word of
64 bits holds is of another kind. -/
def asWhole (wanted : Wanted) (low high : Int) : Value → Except Misfit Int
  | integer n =>
    if low ≤ n ∧ n < high then .ok n
    else if -signedEnd ≤ n ∧ n < wordEnd then Mismatch.here (.outOfRange n wanted)
    else (integer n).unwanted wanted
  | v => v.unwanted wanted

def asWord32 (v : Value) : Except Misfit UInt32 :=
  (v.asWhole .word32 0 (Nat.pow 2 32)).map fun n => UInt32.ofNat n.toNat

def asWord64 (v : Value) : Except Misfit UInt64 :=
  (v.asWhole .word64 0 wordEnd).map fun n => UInt64.ofNat n.toNat

/-- A count that a machine word holds. -/
def asSize (v : Value) : Except Misfit UInt64 :=
  (v.asWhole .size 0 wordEnd).map fun n => UInt64.ofNat n.toNat

def asSigned64 (v : Value) : Except Misfit Int64 :=
  (v.asWhole .signed64 (-signedEnd) signedEnd).map Int64.ofInt

/-- One of several choices: its name, or a table with the name as its only key and nothing in it. -/
def asChoice (known : List String) : Value → Except Misfit String
  | text s => if s ∈ known then .ok s else Mismatch.here (.unknownChoice s known)
  | table [(s, v)] =>
    if s ∈ known then
      match v with
      | table [] | array [] => .ok s
      | v => .error ⟨[.key s], .choiceHolds v⟩
    else .error ⟨[.name s], .unknownChoice s known⟩
  | table entries => Mismatch.here (.choiceCount entries.length)
  | _ => Mismatch.here .noChoice

/-- A record with the given fields, from a table or from an array. Keys of a table that are none of
the fields are passed over if what they stand for can be read; what an array holds behind the last
field is not looked at. -/
def asRecord {α : Type} (name : String) (fields : List String)
    (ofTable : Entries Value → Except Misfit α) (ofArray : List Value → Except Misfit α) :
    Value → Except Misfit α
  | table entries => ofFields fields ofTable entries
  | dateTime _ => ofTable []
  | array items => ofArray items
  | v => v.unwanted (.record name)
where
  /-- Reads the fields of a table, and notices what cannot be read at other keys. -/
  ofFields {α : Type} (fields : List String) (ofTable : Entries Value → Except Misfit α)
      (entries : Entries Value) : Except Misfit α :=
    match ofTable entries, entryTrouble? (entries.filter fun e => !fields.contains e.1) with
    | read, none => read
    | .ok _, some m => .error m
    | .error m, some n => .error (m.earlier n)

end Value

/-- What a key of a table says, or the default where the key is not there. -/
def field {α : Type} (t : Entries Value) (key : String) (read : Value → Except Misfit α)
    (default : α) : Except Misfit α :=
  match t.get? key with
  | some v => (read v).mapError (·.behind (.key key))
  | none => .ok default

/-- What a key of a table says, if it is there. -/
def field? {α : Type} (t : Entries Value) (key : String) (read : Value → Except Misfit α) :
    Except Misfit (Option α) :=
  field t key (fun v => (read v).map some) none

/-- What a key of a table says, which has to be there. -/
def neededField {α : Type} (t : Entries Value) (key : String)
    (read : Value → Except Misfit α) : Except Misfit α := do
  match ← field? t key read with
  | some a => pure a
  | none => Mismatch.here (.missing key)

/-- What a place in an array says, or the default behind its end. -/
def item {α : Type} (items : List Value) (place : Nat) (read : Value → Except Misfit α)
    (default : α) : Except Misfit α :=
  match items[place]? with
  | some v => (read v).mapError (·.inItem place)
  | none => .ok default

/-- What a place in an array says, which has to be there. -/
def neededItem {α : Type} (record : String) (fields : Nat) (items : List Value) (place : Nat)
    (read : Value → Except Misfit α) : Except Misfit α :=
  match items[place]? with
  | some v => (read v).mapError (·.inItem place)
  | none => Mismatch.here (.tooShort place record fields)

end Hush.Toml
