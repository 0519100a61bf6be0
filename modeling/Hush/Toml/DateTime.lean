import Hush.Toml.Flaw
import Hush.Toml.Reader

/-!
# Dates and times

A date, a time of day, or both with an offset from universal time behind them or not. Seconds may
be left out, and a last second of sixty is allowed. Only whether a text is one of these matters, and
why it is not.
-/
namespace Hush.Toml.DateTime

/-- A run of digits, one of the characters between them, or anything else with all that follows. -/
inductive Part where
  | digits (ds : List Char)
  | dash | colon | dot | letterT | space | letterZ | plus
  | other
  deriving DecidableEq, Repr

/-- The part that a character other than a digit is. -/
def separator (c : Char) : Part :=
  if c = '-' then .dash
  else if c = ':' then .colon
  else if c = '.' then .dot
  else if c = 'T' ∨ c = 't' then .letterT
  else if c = ' ' then .space
  else if c = 'Z' ∨ c = 'z' then .letterZ
  else if c = '+' then .plus
  else .other

def part : Reader Part
  | [] => none
  | c :: cs =>
    if c.isDigit then
      let (ds, rest) := (c :: cs).span Char.isDigit
      some (.digits ds, rest)
    else
      match separator c with
      | .other => some (.other, [])
      | p => some (p, cs)

/-- Parts are missing, in excess or out of range. -/
def refused {α : Type} (what expected : String) : Except Cause α :=
  .error (.dateTime what (some expected))

/-- The number that comes next. -/
def digits (what expected : String) : List Part → Except Cause (List Char × List Part)
  | .digits ds :: rest => .ok (ds, rest)
  | _ => refused what expected

/-- What follows the separator that comes next. -/
def after (p : Part) (what expected : String) : List Part → Except Cause (List Part)
  | q :: rest => if q = p then .ok rest else refused what expected
  | [] => refused what expected

def number (ds : List Char) : Nat := ds.foldl (fun n c => n * 10 + (c.toNat - '0'.toNat)) 0

/-- Goes on only if a condition holds. -/
def demand (condition : Bool) (what expected : String) : Except Cause Unit :=
  if condition then .ok () else refused what expected

/-- February has a day more in the year. -/
def isLeapYear (year : Nat) : Bool := year % 4 == 0 && (year % 100 != 0 || year % 400 == 0)

def daysIn (year month : Nat) : Nat :=
  if month = 2 then if isLeapYear year then 29 else 28
  else if month = 4 ∨ month = 6 ∨ month = 9 ∨ month = 11 then 30
  else 31

/-- What follows a date whose year and first dash have been read. -/
def skipDate (year : List Char) (parts : List Part) : Except Cause (List Part) := do
  let (month, parts) ← digits "date" "month" parts
  let (day, parts) ← digits "date" "day" (← after .dash "date" "`-` (MM-DD)" parts)
  demand (year.length == 4) "date" "a four-digit year (YYYY)"
  demand (month.length == 2) "date" "a two-digit month (MM)"
  demand (day.length == 2) "date" "a two-digit day (DD)"
  demand (1 ≤ number month && number month ≤ 12) "date" "month between 01 and 12"
  let days := daysIn (number year) (number month)
  demand (1 ≤ number day && number day ≤ days) "date" s!"day between 01 and {days}"
  return parts

/-- Seconds if there are any, and what follows them with their fraction. -/
def seconds : List Part → Except Cause (Option (List Char) × List Part)
  | .colon :: parts => do
    let (second, parts) ← digits "time" "second" parts
    match parts with
    | .dot :: parts => do
      let (_, parts) ← digits "time" "nanosecond" parts
      return (some second, parts)
    | parts => return (some second, parts)
  | parts => .ok (none, parts)

/-- What follows a time of day. -/
def skipTime (parts : List Part) : Except Cause (List Part) := do
  let (hour, parts) ← digits "time" "hour" parts
  let (minute, parts) ← digits "time" "minute" (← after .colon "time" "`:` (HH:MM)" parts)
  let (second, parts) ← seconds parts
  demand (hour.length == 2) "time" "a two-digit hour (HH)"
  demand (minute.length == 2) "time" "a two-digit minute (MM)"
  demand (second.all (·.length == 2)) "time" "a two-digit second (SS)"
  demand (number hour ≤ 23) "time" "hour between 00 and 23"
  demand (number minute ≤ 59) "time" "minute between 00 and 59"
  demand (second.all (number · ≤ 60)) "time" "second between 00 and 60"
  return parts

/-- What follows an offset whose sign has been read. -/
def skipOffset (parts : List Part) : Except Cause (List Part) := do
  let (hours, parts) ← digits "offset" "hour" parts
  let (minutes, parts) ← digits "offset" "minute" (← after .colon "offset" "`:` (HH:MM)" parts)
  demand (hours.length == 2) "offset" "a two-digit hour (HH)"
  demand (minutes.length == 2) "offset" "a two-digit minute (MM)"
  demand (number hours ≤ 23) "offset" "hours between 00 and 23"
  demand (number minutes ≤ 59) "offset" "minutes between 00 and 59"
  return parts

/-- What follows an offset, or the end. -/
def skipZone : List Part → Except Cause (List Part)
  | [] => .ok []
  | .letterZ :: parts => .ok parts
  | .plus :: parts | .dash :: parts => skipOffset parts
  | _ => refused "offset" "`Z`, +OFFSET, -OFFSET"

/-- Nothing may be left. -/
def finished : List Part → Except Cause Unit
  | [] => .ok ()
  | _ => .error (.dateTime "datetime" none)

/-- Looks whether a text is a date, a time, or a date and a time. -/
def check (cs : List Char) : Except Cause Unit := do
  let parts := (many part cs).1
  let (first, rest) ← digits "datetime" "year or hour" parts
  match rest with
  | .dash :: rest =>
    match ← skipDate first rest with
    | [] => return
    | .letterT :: rest | .space :: rest => finished (← skipZone (← skipTime rest))
    | _ => refused "date-time" "`T` between date and time"
  | .colon :: _ => finished (← skipTime parts)
  | _ => refused "datetime" "`-` (YYYY-MM) or `:` (HH:MM)"

end Hush.Toml.DateTime
