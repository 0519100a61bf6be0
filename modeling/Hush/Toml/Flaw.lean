/-!
# Flaws

What keeps a text from being a document: what is wrong, what could have stood there instead, and
which bytes it is about.
-/
namespace Hush.Toml

/-- Some bytes of a text, from `start` up to but not including `stop`. -/
structure Span where
  start : Nat
  stop : Nat
  deriving DecidableEq, Repr

namespace Span

def point (n : Nat) : Span := ⟨n, n⟩

def byte (n : Nat) : Span := ⟨n, n + 1⟩

/-- The place in front of the bytes. -/
def before (s : Span) : Span := .point s.start

/-- The place behind the bytes. -/
def after (s : Span) : Span := .point s.stop

/-- The bytes from the first of one span to the last of another. -/
def through (s t : Span) : Span := ⟨s.start, t.stop⟩

end Span

/-- How text is quoted: by double quotes, between which there are escapes, or by single ones; and
by one quote on a line or by three over several. -/
structure Quoting where
  double : Bool
  block : Bool
  deriving DecidableEq, Repr

namespace Quoting

def quote (q : Quoting) : Char := if q.double then '"' else '\''

def marks (q : Quoting) : List Char := List.replicate (if q.block then 3 else 1) q.quote

def name (q : Quoting) : String :=
  (if q.block then "multi-line " else "") ++ (if q.double then "basic" else "literal") ++ " string"

end Quoting

/-- What could have stood in a place: these very characters, or something put in words. -/
inductive Expected where
  | exactly (characters : String)
  | described (words : String)
  deriving DecidableEq, Repr

/-- How it is put to the reader. -/
def Expected.text : Expected → String
  | exactly characters => if characters = "\n" then "newline" else s!"`{characters}`"
  | described words => words

/-- What comes next between the braces of an inline table. -/
inductive Awaited where
  | key | assignment | value | comma
  deriving DecidableEq, Repr

/-- What could stand there. -/
def Awaited.expected : Awaited → Expected
  | key => .described "key"
  | assignment => .exactly "="
  | value => .described "value"
  | comma => .exactly ","

inductive Cause where
  | bareReturn
  | commentCharacter
  | missingKey
  | tableUnopened
  | tableUnclosed
  | tablesUnclosed (brackets : String)
  | keyAlone
  | pointAlone
  | afterLine
  | extraEquals
  | braceUnopened
  | bracketUnopened
  | tooDeep
  | arrayComma
  | arrayEquals
  | itemsUnseparated
  | arrayUnclosed
  | pairComma (awaited : Awaited)
  | pairEquals (awaited : Awaited)
  | pairUnassigned
  | pairUnnamed (awaited : Awaited)
  | pairsUnseparated
  | pairInvalid (awaited : Awaited)
  | inlineUnclosed
  | emptyName
  | nameCharacter
  | blockName (q : Quoting)
  | longKey
  | textUnclosed (q : Quoting)
  | textCharacter (q : Quoting)
  | unknownEscape
  | shortEscape
  | invalidEscape
  | joinUnended
  | unquoted
  | unopenedText (quotes : String)
  | notWord (kind word : String)
  | redundantSign
  | signedBase
  | capitalBase (base : String)
  | redundantBase
  | signAfterBase
  | baseDigit (base : String)
  | looseUnderscore
  | leadingZero
  | noDigits (part : String)
  | afterFloat
  | dateTime (part : String) (expected : Option String)
  | duplicateKey
  | notExtensible (kind : String)
  deriving DecidableEq, Repr

namespace Cause

/-- What stands in front of a name without quotes, or in it. -/
def nameCharacters : List Expected :=
  [.described "letters", .described "numbers", .exactly "-", .exactly "_"]

def escapeLetters : List Expected :=
  ["b", "e", "f", "n", "r", "\\", "\"", "x", "u", "U"].map .exactly

/-- The characters that may stand between quotes. -/
def textCharacters (q : Quoting) : List Expected :=
  match q.double, q.block with
  | true, false => [.described "non-double-quote visible characters", .exactly "\\"]
  | true, true => [.exactly "\\", .described "characters"]
  | false, false => [.described "non-single-quote visible characters"]
  | false, true => [.described "non-single-quote characters"]

/-- The words for what is wrong. -/
def what : Cause → String
  | bareReturn => "carriage return must be followed by newline"
  | commentCharacter => "invalid comment character"
  | missingKey => "invalid key-value pair"
  | tableUnopened => "missing table open"
  | tableUnclosed => "unclosed table"
  | tablesUnclosed _ => "unclosed array table"
  | keyAlone => "key with no value"
  | pointAlone => "missing value for key"
  | afterLine => "unexpected key or value"
  | extraEquals => "extra `=`"
  | braceUnopened => "missing inline table opening"
  | bracketUnopened => "missing array opening"
  | tooDeep => "cannot recurse further; max recursion depth met"
  | arrayComma => "extra comma in array"
  | arrayEquals => "unexpected `=` in array"
  | itemsUnseparated => "missing comma between array elements"
  | arrayUnclosed => "unclosed array"
  | pairComma _ => "extra comma in inline table"
  | pairEquals _ => "extra assignment between key-value pairs"
  | pairUnassigned => "missing assignment between key-value pairs"
  | pairUnnamed _ => "missing key for inline table element"
  | pairsUnseparated => "missing comma between key-value pairs"
  | pairInvalid _ => "invalid inline table element"
  | inlineUnclosed => "unclosed inline table"
  | emptyName => "unquoted keys cannot be empty"
  | nameCharacter => "invalid unquoted key"
  | blockName q => s!"keys cannot be {q.name}s"
  | longKey => "recursion limit"
  | textUnclosed q | textCharacter q => s!"invalid {q.name}"
  | unknownEscape => "missing escaped value"
  | shortEscape => "too few unicode value digits"
  | invalidEscape => "invalid value"
  | joinUnended => "invalid multi-line basic string"
  | unquoted => "string values must be quoted"
  | unopenedText _ => "missing opening quote"
  | notWord kind _ => s!"invalid {kind}"
  | redundantSign => "redundant numeric sign"
  | signedBase => "integers with a radix cannot be signed"
  | capitalBase _ => "radix must be lowercase"
  | redundantBase => "redundant integer number prefix"
  | signAfterBase => "unexpected sign"
  | baseDigit base => s!"invalid {base} number"
  | looseUnderscore => "`_` may only go between digits"
  | leadingZero => "unexpected leading zero"
  | noDigits part => s!"invalid {part}"
  | afterFloat => "invalid float"
  | dateTime part _ => s!"invalid {part}"
  | duplicateKey => "duplicate key"
  | notExtensible kind => s!"cannot extend value of type {kind} with a dotted key"

/-- What could have stood there, if there is anything to say about it. -/
def expected : Cause → Option (List Expected)
  | bareReturn | joinUnended => some [.exactly "\n"]
  | commentCharacter => some [.described "printable characters"]
  | missingKey => some [.described "key"]
  | tableUnopened | bracketUnopened => some [.exactly "["]
  | tableUnclosed | arrayUnclosed => some [.exactly "]"]
  | tablesUnclosed brackets => some [.exactly brackets]
  | keyAlone | pointAlone => some [.exactly "="]
  | afterLine => some [.exactly "\n", .exactly "#"]
  | braceUnopened => some [.exactly "\x7b"]
  | inlineUnclosed => some [.exactly "\x7d"]
  | arrayComma => some [.described "value"]
  | arrayEquals => some [.described "value", .exactly "]"]
  | itemsUnseparated => some [.exactly ","]
  | pairComma awaited | pairEquals awaited | pairUnnamed awaited | pairInvalid awaited =>
    some [awaited.expected]
  | pairUnassigned => some [Awaited.assignment.expected]
  | pairsUnseparated => some [Awaited.comma.expected]
  | emptyName | nameCharacter => some nameCharacters
  | blockName _ => some [.described "basic string", .described "literal string"]
  | textUnclosed q => some [.exactly q.quote.toString]
  | textCharacter q => some (textCharacters q)
  | unknownEscape => some escapeLetters
  | shortEscape | invalidEscape => some [.described "unicode hexadecimal value"]
  | unquoted => some [.described "literal string"]
  | unopenedText quotes => some [.exactly quotes]
  | notWord _ word => some [.exactly word]
  | capitalBase base => some [.exactly base]
  | noDigits _ => some [.described "digits"]
  | dateTime _ expected => expected.map fun words => [.described words]
  | extraEquals | redundantSign | signedBase | redundantBase | signAfterBase | looseUnderscore
  | leadingZero | afterFloat => some []
  | tooDeep | longKey | baseDigit _ | duplicateKey | notExtensible _ => none

def message (c : Cause) : String :=
  match c.expected with
  | none => c.what
  | some [] => c.what ++ ", expected nothing"
  | some choices => c.what ++ ", expected " ++ ", ".intercalate (choices.map (·.text))

end Cause

/-- What is wrong and where. A key that is too long has no place. -/
structure Flaw where
  cause : Cause
  span : Option Span
  deriving DecidableEq, Repr

def Cause.at (c : Cause) (s : Span) : Flaw := ⟨c, some s⟩

end Hush.Toml
