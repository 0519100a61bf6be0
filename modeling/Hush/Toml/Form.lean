import Hush.Toml.Token

/-!
# The form of a document

What is written where, before any of it is understood: lines with a header or with a key and its
value, and values inside each other. Names and scalars are kept as they are written. An empty one
stands where one was left out; it is only missed when the form is read.
-/
namespace Hush.Toml

/-- A name or a scalar as it is written. -/
structure Raw where
  chars : List Char
  span : Span
  quoting : Option Quoting
  deriving DecidableEq, Repr

namespace Raw

/-- One that was left out. -/
def missing (place : Nat) : Raw := ⟨[], .point place, none⟩

/-- Text between single quotes that was left out, quotes and all. -/
def unwritten (place : Nat) : Raw := ⟨[], .point place, some ⟨false, false⟩⟩

/-- A token as it is written. -/
def ofToken (t : Token) : Raw :=
  match t.kind with
  | .quoted q => ⟨t.chars, t.span, some q⟩
  | _ => ⟨t.chars, t.span, none⟩

/-- The place of what is left of it. -/
def placeOf (r : Raw) (rest : List Char) : Nat := r.span.stop - Text.byteLength rest

end Raw

inductive Form where
  | scalar (raw : Raw)
  | array (span : Span) (items : List Form)
  | inlineTable (span : Span) (pairs : List (List Raw × Form))

inductive Line where
  | header (isArray : Bool) (span : Span) (key : List Raw)
  | pair (key : List Raw) (value : Form)

/-- Takes something off the front of tokens. -/
abbrev TokenReader (α : Type) := List Token → Except Flaw (α × List Token)

/-- The names of a key, with points between them, on top of those already read in reverse; `named`
says whether a name has just been read. Also tells whether the last name was there. -/
def keyOnto : (named : Bool) → (read : List Raw) → List Token → List Raw × Bool × List Token
  | named, read, [] => (read.reverse, named, [])
  | named, read, t :: rest =>
    match named, t.kind with
    | _, .space => keyOnto named read rest
    | true, .dot => keyOnto false read rest
    | true, _ => (read.reverse, true, t :: rest)
    | false, .dot => keyOnto false (.missing t.span.start :: read) rest
    | false, .quoted _ => keyOnto true (.ofToken t :: read) rest
    | false, .word => keyOnto true (.ofToken t :: read) rest
    | false, _ => ((.missing t.span.start :: read).reverse, false, t :: rest)

/-- The names of a key, and whether the last of them is there. -/
def keyNames (tokens : List Token) : List Raw × Bool × List Token := keyOnto false [] tokens

/-- The tokens of a scalar without quotes, on top of those already read in reverse: words and
points, and a blank with a word behind it. -/
def wordsOnto (read : List Token) : List Token → List Token × List Token
  | t :: u :: rest =>
    if t.kind = .dot ∨ t.kind = .word then wordsOnto (t :: read) (u :: rest)
    else if t.kind = .space ∧ u.kind = .word then wordsOnto (u :: t :: read) rest
    else (read.reverse, t :: u :: rest)
  | rest => (read.reverse, rest)

/-- A scalar from its first token on. -/
def scalarForm (t : Token) (rest : List Token) : Form × List Token :=
  match t.kind with
  | .quoted _ => (.scalar (.ofToken t), rest)
  | _ =>
    let (run, rest) := wordsOnto [t] rest
    let last := run.getLastD t
    (.scalar ⟨run.flatMap (·.chars), t.span.through last.span, none⟩, rest)

/-- The items of an array from behind its opening bracket on. `ending` is where the text ends, and
every step takes a token from the budget. -/
def itemsForm (ending : Nat) (value : Token → TokenReader Form) (opening : Token) :
    (budget : List Token) → (separated : Bool) → (read : List Form) → TokenReader Form
  | _ :: budget, separated, read, t :: rest =>
    let further := itemsForm ending value opening budget
    match t.kind with
    | .space => further separated read rest
    | .comment | .newline => do
      t.check
      further separated read rest
    | .finish => .error (Cause.arrayUnclosed.at (.point ending))
    | .comma =>
      if separated then .error (Cause.arrayComma.at t.span) else further true read rest
    | .equals => .error (Cause.arrayEquals.at t.span)
    | .closeBracket => .ok (.array (opening.span.through t.span) read.reverse, rest)
    | .closeBrace =>
      .error ((if separated then .braceUnopened else Cause.itemsUnseparated).at t.span.before)
    | .openBracket | .openBrace | .dot | .quoted _ | .word =>
      if separated then do
        let (v, rest) ← value t rest
        further false (v :: read) rest
      else .error (Cause.itemsUnseparated.at t.span.before)
  | _, _, _, _ => .error (Cause.arrayUnclosed.at (.point ending))

/-- The keys and values of an inline table from behind its opening brace on; `key` is the one whose
value is still to come. -/
def pairsForm (ending : Nat) (value : Token → TokenReader Form) (opening : Token) :
    (budget : List Token) → Awaited → (key : List Raw) → (read : List (List Raw × Form)) →
      TokenReader Form
  | _ :: budget, awaited, key, read, t :: rest =>
    let further := pairsForm ending value opening budget
    let refused := fun (c : Cause) => Except.error (c.at t.span.before)
    match t.kind, awaited with
    | .space, _ => further awaited key read rest
    | .comment, _ | .newline, _ => do
      t.check
      further awaited key read rest
    | .finish, _ => .error (Cause.inlineUnclosed.at (.point ending))
    | .comma, .comma => further .key [] read rest
    | .comma, _ => refused (.pairComma awaited)
    | .equals, .key => further .value [.missing t.span.start] read rest
    | .equals, .assignment => further .value key read rest
    | .equals, _ => refused (.pairEquals awaited)
    | .closeBrace, .key | .closeBrace, .comma =>
      .ok (.inlineTable (opening.span.through t.span) read.reverse, rest)
    | .closeBrace, .assignment | .closeBrace, .value =>
      let pairs := ((key, .scalar (.unwritten t.span.start)) :: read).reverse
      .ok (.inlineTable (opening.span.through t.span) pairs, rest)
    | .closeBracket, .value => refused .bracketUnopened
    | .closeBracket, _ => refused (.pairInvalid awaited)
    | .openBracket, .key | .openBracket, .comma | .openBrace, .key | .openBrace, .comma =>
      refused (.pairUnnamed awaited)
    | _, .key =>
      let (key, _, rest) := keyNames (t :: rest)
      further .assignment key read rest
    | _, .comma => refused .pairsUnseparated
    | _, .assignment => refused .pairUnassigned
    | _, .value => do
      let (v, rest) ← value t rest
      further .comma [] ((key, v) :: read) rest
  | _, _, _, _, _ => .error (Cause.inlineUnclosed.at (.point ending))

/-- A value from its first token on, with arrays and inline tables nested at most `depth` deep. -/
def nestedForm (ending : Nat) : (depth : Nat) → Token → TokenReader Form
  | 0, t, rest =>
    match t.kind with
    | .openBracket | .openBrace => .error (Cause.tooDeep.at t.span)
    | _ => .ok (scalarForm t rest)
  | depth + 1, t, rest =>
    match t.kind with
    | .openBracket => itemsForm ending (nestedForm ending depth) t rest true [] rest
    | .openBrace => pairsForm ending (nestedForm ending depth) t rest .key [] [] rest
    | _ => .ok (scalarForm t rest)

/-- How deep arrays and inline tables may be nested, and how many names a key may have. -/
def depthLimit : Nat := 80

/-- The value of a line. It may be left out. -/
def valueForm (ending : Nat) : TokenReader Form
  | [] => .ok (.scalar (.missing ending), [])
  | t :: rest =>
    match t.kind with
    | .space => valueForm ending rest
    | .comment | .comma | .newline | .finish =>
      .ok (.scalar (.missing t.span.start), t :: rest)
    | .equals => .error (Cause.extraEquals.at t.span)
    | .closeBrace => .error (Cause.braceUnopened.at t.span.before)
    | .closeBracket => .error (Cause.bracketUnopened.at t.span.before)
    | .openBracket | .openBrace | .dot | .quoted _ | .word =>
      nestedForm ending depthLimit t rest

/-- What follows the rest of a line that may hold blanks and a comment only. -/
def endLine : List Token → Except Flaw (List Token)
  | [] => .ok []
  | t :: rest =>
    match t.kind with
    | .space => endLine rest
    | .comment => do
      t.check
      endLine rest
    | .newline => do
      t.check
      .ok rest
    | .finish => .ok []
    | _ => .error (Cause.afterLine.at t.span.before)

/-- What follows the rest of a line, whatever it holds. -/
def skipLine : List Token → Except Flaw (List Token)
  | [] => .ok []
  | t :: rest =>
    match t.kind with
    | .newline => do
      t.check
      .ok rest
    | .finish => .ok []
    | _ => do
      t.check
      skipLine rest

/-- The first token if it is of a kind, and what follows it. -/
def token? (kind : Token.Kind) : List Token → Option (Token × List Token)
  | [] => none
  | t :: rest => if t.kind = kind then some (t, rest) else none

/-- A header with its line, from behind its first bracket on. One without a name may be cut short,
since it is refused for that. -/
def headerForm (opening : Token) (tokens : List Token) : Except Flaw (Line × List Token) :=
  let second := token? .openBracket tokens
  let isArray := second.isSome
  let (key, named, tokens) := keyNames ((second.map (·.2)).getD tokens)
  match token? .closeBracket tokens with
  | some (first, rest) =>
    if isArray then
      match token? .closeBracket rest with
      | some (last, rest) =>
        (endLine rest).map (.header true (opening.span.through last.span) key, ·)
      | none => .error ((Cause.tablesUnclosed "]").at first.span.after)
    else (endLine rest).map (.header false (opening.span.through first.span) key, ·)
  | none =>
    if named then
      let last := (key.getLast?.map (·.span)).getD opening.span
      let cause := if isArray then Cause.tablesUnclosed "]]" else Cause.tableUnclosed
      .error (cause.at last.after)
    else (skipLine tokens).map (.header isArray opening.span key, ·)

/-- A key and its value with their line, from their first token on. -/
def pairForm (ending : Nat) (t : Token) (rest : List Token) :
    Except Flaw (Line × List Token) := do
  let (key, _, tokens) := keyNames (t :: rest)
  match token? .equals tokens with
  | some (_, rest) =>
    let (v, rest) ← valueForm ending rest
    return (.pair key v, ← endLine rest)
  | none =>
    let place := (tokens.head?.map (·.span.before)).getD (.point ending)
    throw ((if t.kind = .dot then Cause.pointAlone else Cause.keyAlone).at place)

/-- The lines that say something, on top of those already read in reverse. -/
def linesOnto (ending : Nat) :
    (budget : List Token) → (read : List Line) → List Token → Except Flaw (List Line)
  | _ :: budget, read, t :: rest =>
    let further := linesOnto ending budget
    match t.kind with
    | .space | .newline | .comment => do
      t.check
      further read rest
    | .finish => .ok read.reverse
    | .openBracket => do
      let (line, rest) ← headerForm t rest
      further (line :: read) rest
    | .closeBracket => .error (Cause.tableUnopened.at t.span.before)
    | .comma | .openBrace | .closeBrace => .error (Cause.missingKey.at t.span.before)
    | .equals | .dot | .quoted _ | .word => do
      let (line, rest) ← pairForm ending t rest
      further (line :: read) rest
  | _, read, _ => .ok read.reverse

def Line.all (text : String) : Except Flaw (List Line) :=
  let tokens := Token.all text
  linesOnto (Token.lastStop tokens) tokens [] tokens

end Hush.Toml
