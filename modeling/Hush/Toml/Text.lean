import Hush.Toml.Form

/-!
# Text in documents

What quoted text stands for. Between double quotes a backslash begins an escape, and in text over
several lines it takes the end of its line and the blanks that follow away; between single quotes
everything stands for itself. A line end right after the opening three quotes does not count.
-/
namespace Hush.Toml

def digitValue? (c : Char) : Option Nat :=
  if '0' ≤ c ∧ c ≤ '9' then some (c.toNat - '0'.toNat)
  else if 'a' ≤ c ∧ c ≤ 'f' then some (c.toNat - 'a'.toNat + 10)
  else if 'A' ≤ c ∧ c ≤ 'F' then some (c.toNat - 'A'.toNat + 10)
  else none

def isHexDigit (c : Char) : Bool := (digitValue? c).isSome

/-- The number that digits to a base stand for; each must be below it. -/
def ofDigits? (base : Nat) (digits : List Char) : Option Nat :=
  digits.foldlM (fun n c => do
    let d ← digitValue? c
    if d < base then some (n * base + d) else none) 0

/-- The character whose number is written in the first `count` digits, which begin at `place`. -/
def numbered (count place : Nat) (cs : List Char) : Except Flaw Char :=
  let digits := (cs.take count).takeWhile isHexDigit
  if digits.length < count then .error (Cause.shortEscape.at (.point (place + digits.length)))
  else
    match ofDigits? 16 digits with
    | some n =>
      if n.isValidChar then .ok (Char.ofNat n) else .error (Cause.invalidEscape.at (.point place))
    | none => .error (Cause.invalidEscape.at (.point place))

/-- The character that an escape stands for, and how many characters it takes behind its backslash.
The first of them is at `place`. -/
def escaped (place : Nat) : List Char → Except Flaw (Char × Nat)
  | 'b' :: _ => .ok ('\x08', 1)
  | 't' :: _ => .ok ('\t', 1)
  | 'n' :: _ => .ok ('\n', 1)
  | 'f' :: _ => .ok ('\x0c', 1)
  | 'r' :: _ => .ok ('\r', 1)
  | 'e' :: _ => .ok ('\x1b', 1)
  | '"' :: _ => .ok ('"', 1)
  | '\\' :: _ => .ok ('\\', 1)
  | 'x' :: rest => (numbered 2 (place + 1) rest).map (·, 3)
  | 'u' :: rest => (numbered 4 (place + 1) rest).map (·, 5)
  | 'U' :: rest => (numbered 8 (place + 1) rest).map (·, 9)
  | _ => .error (Cause.unknownEscape.at (.point place))

/-- How many blanks and line ends are in front. -/
def blankLength : (length : Nat) → List Char → Nat
  | length, '\n' :: rest => blankLength (length + 1) rest
  | length, '\r' :: '\n' :: rest => blankLength (length + 2) rest
  | length, c :: rest => if isSpace c then blankLength (length + 1) rest else length
  | length, [] => length

/-- How many characters a backslash at the end of a line takes away. The first of them is at
`place`. -/
def joined (place : Nat) (cs : List Char) : Except Flaw Nat :=
  let spaces := (cs.takeWhile isSpace).length
  match cs.dropWhile isSpace with
  | '\n' :: rest => .ok (blankLength (spaces + 1) rest)
  | '\r' :: '\n' :: rest => .ok (blankLength (spaces + 2) rest)
  | '\r' :: _ => .error (Cause.bareReturn.at (.point (place + spaces + 1)))
  | _ => .error (Cause.joinUnended.at (.point (place + spaces)))

namespace Quoting

/-- A backslash in front of this joins lines. -/
def joins (q : Quoting) (cs : List Char) : Bool :=
  q.block && cs.head?.any fun c => isSpace c || c == '\r' || c == '\n'

/-- The character may stand nowhere in the text. -/
def refuses (q : Quoting) (c : Char) : Bool :=
  isControl c && !(q.block && (c == '\n' || c == '\r'))

/-- Looks at a character of the text, which stands for itself, and at what follows it. Of several
refused characters in a row all are reported if there are escapes. -/
def checkPlain (q : Quoting) (place : Nat) (c : Char) (cs : List Char) : Except Flaw Unit :=
  if q.refuses c then
    let run := if q.double then ((c :: cs).takeWhile q.refuses).length else 0
    .error ((Cause.textCharacter q).at ⟨place, place + run⟩)
  else if c = '\r' ∧ cs.head? ≠ some '\n' then
    .error (Cause.bareReturn.at (.point (place + 1)))
  else .ok ()

/-- What text stands for, on top of what has been read in reverse. The first of its characters is at
`place`, and `skip` of them have been taken already. -/
def meaningOnto (q : Quoting) :
    (skip place : Nat) → (read : List Char) → List Char → Except Flaw (List Char)
  | _, _, read, [] => .ok read.reverse
  | skip + 1, place, read, c :: cs => meaningOnto q skip (place + c.utf8Size) read cs
  | 0, place, read, c :: cs =>
    if q.double && c == '\\' then
      if q.joins cs then do
        meaningOnto q (← joined (place + 1) cs) (place + 1) read cs
      else do
        let (d, length) ← escaped (place + 1) cs
        meaningOnto q length (place + 1) (d :: read) cs
    else do
      q.checkPlain place c cs
      meaningOnto q 0 (place + c.utf8Size) (c :: read) cs

end Quoting

/-- The text without a line end in front. -/
def afterNewline : List Char → List Char
  | '\n' :: rest => rest
  | '\r' :: '\n' :: rest => rest
  | cs => cs

/-- What is written between quotes. -/
def Raw.between (r : Raw) (q : Quoting) : Except Flaw (List Char) :=
  let opened := r.chars.drop q.marks.length
  let text := if q.block then afterNewline opened else opened
  let length := text.length - q.marks.length
  if text.drop length = q.marks then .ok (text.take length)
  else .error ((Cause.textUnclosed q).at r.span.after)

/-- What quoted text stands for. -/
def Raw.text (r : Raw) (q : Quoting) : Except Flaw String := do
  let text ← r.between q
  let place := r.span.stop - Text.byteLength q.marks - Text.byteLength text
  return String.ofList (← q.meaningOnto 0 place [] text)

def isNameChar (c : Char) : Bool := c.isAlphanum || c == '_' || c == '-'

/-- A name. Quoted ones are on one line; in one without quotes, the first run of characters that may
not stand there is reported. -/
def Raw.name (r : Raw) : Except Flaw String :=
  match r.quoting with
  | some q => if q.block then .error ((Cause.blockName q).at r.span) else r.text q
  | none =>
    if r.chars.isEmpty then .error (Cause.emptyName.at r.span)
    else
      match r.chars.dropWhile isNameChar with
      | [] => .ok (String.ofList r.chars)
      | rest =>
        let place := r.placeOf rest
        let run := Text.byteLength (rest.takeWhile fun c => !isNameChar c)
        .error (Cause.nameCharacter.at ⟨place, place + run⟩)

end Hush.Toml
