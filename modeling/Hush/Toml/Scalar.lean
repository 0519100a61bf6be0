import Hush.Decimal
import Hush.Toml.DateTime
import Hush.Toml.Text
import Hush.Toml.Value

/-!
# Scalars

What a scalar stands for: text, and without quotes booleans, dates and times, and numbers. Digits
may be grouped by single underscores; a decimal number has no zero in front. A fraction is rounded
once, to the nearest binary64 number. What has the shape of a number is a scalar even where its
digits make no number.
-/
namespace Hush.Toml

/-- A whole number, as long as it fits a word of 128 bits. -/
def ofWhole (n : Int) : Value :=
  if -Value.doubleEnd ≤ n ∧ n < 2 * Value.doubleEnd then .integer n else .unreadable .integer

/-- The number with the given sign that is nearest to `m * 10 ^ e`. Far beyond the largest number
and far below the smallest one the power is not worked out. -/
def ofDecimal (negative : Bool) (m : Nat) (e : Int) : Value :=
  let size := Decimal.digitCount m + e
  if m = 0 ∨ size < -325 then .float (Binary64.ofMagnitude negative 0)
  else if 310 < size then .unreadable .float
  else
    let value : Rat := if 0 ≤ e then m * Nat.pow 10 e.toNat else m / Nat.pow 10 (-e).toNat
    let x := Binary64.ofMagnitude negative (Binary64.nearestMagnitude value)
    if x.magnitude < Binary64.infinityMagnitude then .float x else .unreadable .float

/-- The number after a sign, and whether the sign is a minus. -/
def signed : List Char → Bool × List Char
  | '-' :: rest => (true, rest)
  | '+' :: rest => (false, rest)
  | rest => (false, rest)

def wholeValue (base : Nat) (cs : List Char) : Value :=
  let (negative, digits) := signed cs
  match digits, ofDigits? base digits with
  | _ :: _, some n => ofWhole (if negative then -n else n)
  | _, _ => .unreadable .integer

def isExponentMark (c : Char) : Bool := c == 'e' || c == 'E'

/-- A decimal number that may have a fraction and an exponent. -/
def decimalValue (cs : List Char) : Value :=
  let (negative, cs) := signed cs
  let (mantissa, rest) := cs.span fun c => !isExponentMark c
  let (whole, fraction) := mantissa.span (· != '.')
  let (sunk, exponent) := signed (rest.drop 1)
  match ofDigits? 10 (whole ++ fraction.drop 1), ofDigits? 10 exponent with
  | some m, some e =>
    let e : Int := if sunk then -e else e
    ofDecimal negative m (e - (fraction.drop 1).length)
  | _, _ => .unreadable .float

namespace Raw

/-- A flaw at the first byte of what is left. -/
def flawAt {α : Type} (r : Raw) (rest : List Char) (c : Cause) : Except Flaw α :=
  .error (c.at (.byte (r.placeOf rest)))

/-- The raw text is no scalar: text should be quoted, on the left side at least. -/
def unquoted {α : Type} (r : Raw) : Except Flaw α :=
  let quotes := ["'''", "\"\"\"", "'", "\""]
  match quotes.find? fun marks => marks.toList.isSuffixOf r.chars with
  | some marks => .error ((Cause.unopenedText marks).at r.span.before)
  | none => .error (Cause.unquoted.at r.span)

/-- A word that stands for a value. -/
def word (r : Raw) (kind word : String) (v : Value) : Except Flaw Value :=
  if r.chars = word.toList then .ok v
  else if r.chars.contains ' ' then r.unquoted
  else .error ((Cause.notWord kind word).at r.span)

/-- A word that stands for a number, after a sign. -/
def signedWord (r : Raw) (value : List Char) (word : String) (v : Value) : Except Flaw Value :=
  if value = word.toList then .ok v
  else .error ((Cause.notWord "float" word).at ⟨r.placeOf value, r.span.stop⟩)

/-- What follows decimal digits with underscores between them. There has to be a digit, and unless
`padded` no zero in front of others. -/
def digits (r : Raw) (part : String) (padded : Bool) (cs : List Char) :
    Except Flaw (List Char) :=
  let run := cs.takeWhile fun c => c.isDigit || c == '_'
  let count := run.countP Char.isDigit
  if count = 0 then r.flawAt cs (.noDigits part)
  else if 1 < count ∧ cs.head? = some '0' ∧ !padded then r.flawAt cs .leadingZero
  else .ok (cs.dropWhile fun c => c.isDigit || c == '_')

/-- Text from the first underscore on that is not between two digits; `digit` says whether a digit
is in front. -/
def looseFrom (isDigit : Char → Bool) : (digit : Bool) → List Char → Option (List Char)
  | _, [] => none
  | digit, c :: cs =>
    if c = '_' then
      if digit && cs.head?.any isDigit then looseFrom isDigit false cs else some (c :: cs)
    else looseFrom isDigit (isDigit c) cs

/-- Text without the underscores between its digits. -/
def ungrouped (r : Raw) (isDigit : Char → Bool) (cs : List Char) : Except Flaw (List Char) :=
  match looseFrom isDigit false cs with
  | some rest => r.flawAt rest .looseUnderscore
  | none => .ok (cs.filter (· != '_'))

/-- A whole decimal number of more than one character, which begins at `value` behind its sign. -/
def whole (r : Raw) (value : List Char) : Except Flaw Value :=
  if value.head? = some '0' then r.flawAt value .leadingZero
  else (r.ungrouped isHexDigit r.chars).map (wholeValue 10)

/-- What follows an exponent, if there is one. -/
def exponent (r : Raw) : List Char → Except Flaw (List Char)
  | [] => .ok []
  | c :: cs =>
    if isExponentMark c then r.digits "exponent" true (signed cs).2 else .ok (c :: cs)

/-- A decimal number with a fraction or an exponent, whose digits begin at `value`. -/
def fractional (r : Raw) (value : List Char) : Except Flaw Value := do
  let rest ← r.digits "mantissa" false value
  let rest ← match rest with
    | '.' :: fraction => r.digits "fraction" true fraction
    | rest => pure rest
  let rest ← r.exponent rest
  if rest.isEmpty then
    return decimalValue (← r.ungrouped Char.isDigit r.chars)
  else throw (Cause.afterFloat.at ⟨r.placeOf rest, r.span.stop⟩)

/-- A date or time, or a number, whose digits begin at `value`. -/
def decimal (r : Raw) (value : List Char) : Except Flaw Value :=
  match value.dropWhile Char.isDigit with
  | [] => r.whole value
  | c :: rest =>
    if c = '-' ∨ c = ':' then
      match DateTime.check r.chars with
      | .ok () => .ok (.dateTime (String.ofList r.chars))
      | .error cause => .error (cause.at r.span)
    else if (c :: rest).contains ' ' then r.unquoted
    else if (c :: rest).any fun d => d == '.' || isExponentMark d then r.fractional value
    else if c = '_' then r.whole value
    else r.unquoted

/-- The base that a letter behind a zero stands for, and what its numbers are called. -/
def base? (letter : Char) : Option (Nat × String) :=
  if letter = 'x' then some (16, "hexadecimal")
  else if letter = 'o' then some (8, "octal")
  else if letter = 'b' then some (2, "binary")
  else if letter = 'd' then some (10, "integer")
  else none

/-- A number that begins with a zero. -/
def fromZero (r : Raw) (hasSign : Bool) (value : List Char) : Except Flaw Value :=
  match value with
  | _ :: letter :: cs =>
    match base? letter.toLower with
    | none => r.decimal value
    | some (base, name) =>
      let first := r.placeOf value
      if cs.contains ' ' then r.unquoted
      else if hasSign then .error (Cause.signedBase.at (.byte r.span.start))
      else if base = 10 then .error (Cause.redundantBase.at ⟨first, first + 2⟩)
      else if letter.isUpper then
        .error ((Cause.capitalBase s!"0{letter.toLower}").at ⟨first, first + 2⟩)
      else if cs.head? = some '+' ∨ cs.head? = some '-' then r.flawAt cs .signAfterBase
      else
        let ofBase := fun c => c == '_' || (digitValue? c).any (· < base)
        match cs.dropWhile ofBase with
        | [] => (r.ungrouped isHexDigit cs).map (wholeValue base)
        | rest => r.flawAt rest (.baseDigit name)
  | _ => .ok (wholeValue 10 r.chars)

/-- A number after its sign. A point right behind the sign has no digits in front of it. -/
def afterSign (r : Raw) (negative : Bool) (value : List Char) : Except Flaw Value :=
  match value with
  | [] => r.unquoted
  | c :: _ =>
    if value.contains ' ' then r.unquoted
    else if c = '+' ∨ c = '-' then r.flawAt value .redundantSign
    else if c = '0' then r.fromZero true value
    else if c.isDigit ∨ c = '_' then r.decimal value
    else if c = '.' then r.flawAt r.chars (.noDigits "mantissa")
    else if c = 'i' ∨ c = 'I' then r.signedWord value "inf" (.float (Binary64.infinity negative))
    else if c = 'n' ∨ c = 'N' then r.signedWord value "nan" (.float Binary64.nan)
    else r.unquoted

/-- What a scalar without quotes stands for. Its first character tells what it may be. -/
def bare (r : Raw) : Except Flaw Value :=
  match r.chars with
  | [] => r.unquoted
  | c :: cs =>
    if c = '+' ∨ c = '-' then r.afterSign (c == '-') cs
    else if c = '0' then r.fromZero false (c :: cs)
    else if c.isDigit ∨ c = '_' then r.decimal (c :: cs)
    else if c = '.' then
      if cs.contains ' ' then r.unquoted else r.flawAt r.chars (.noDigits "mantissa")
    else if c = 't' ∨ c = 'T' then r.word "boolean" "true" (.boolean true)
    else if c = 'f' ∨ c = 'F' then r.word "boolean" "false" (.boolean false)
    else if c = 'i' ∨ c = 'I' then r.word "float" "inf" (.float (Binary64.infinity false))
    else if c = 'n' ∨ c = 'N' then r.word "float" "nan" (.float Binary64.nan)
    else r.unquoted

def scalar (r : Raw) : Except Flaw Value :=
  match r.quoting with
  | some q => (r.text q).map .text
  | none => r.bare

end Raw
end Hush.Toml
