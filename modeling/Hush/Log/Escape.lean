/-!
# Escape sequences

Text for a file has no terminal sequences: from an escape character to the next letter from `A` to
`Z`, large or small, everything goes. Text for a terminal may not bring sequences of its own: the
control characters that begin or disturb one are spelled out.
-/
namespace Hush.Log

/-- The character every sequence begins with. -/
def escape : Char := '\x1b'

/-- Whether a letter ends a sequence. -/
def endsSequence (c : Char) : Bool := c.isAlpha

/-- What is left of a text when sequences are taken out; `inside` says whether it begins in one. -/
def stripFrom : (inside : Bool) → List Char → List Char
  | _, [] => []
  | inside, c :: cs =>
    if c = escape then stripFrom true cs
    else if inside then stripFrom (!endsSequence c) cs
    else c :: stripFrom false cs

def strip (s : String) : String := String.ofList (stripFrom false s.toList)

def hexDigits (n : Nat) : List Char := Nat.toDigits 16 n

/-- A character as a terminal may show it. -/
def spelled (c : Char) : List Char :=
  if c = escape then "\\x1b".toList
  else if c = '\x07' then "\\x07".toList
  else if c = '\x08' then "\\x08".toList
  else if c = '\x0c' then "\\x0c".toList
  else if c = '\x7f' then "\\x7f".toList
  else if 0x80 ≤ c.toNat ∧ c.toNat ≤ 0x9f then "\\u\x7b".toList ++ hexDigits c.toNat ++ ['}']
  else [c]

/-- A message as it is written into a line. -/
def spelledOut (s : String) : String := String.ofList (s.toList.flatMap spelled)

end Hush.Log
