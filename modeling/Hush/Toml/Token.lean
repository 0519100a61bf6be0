import Hush.Text.Parts
import Hush.Toml.Flaw
import Hush.Toml.Reader

/-!
# Tokens

A text is cut into tokens from front to back, and every text can be: punctuation, blanks, comments,
quoted text, and words, which are whatever else stands together. Quoted text that is not closed goes
on to the end of its line, or of the text where it may have several lines.
-/
namespace Hush.Toml

/-- What a token is. The last one of a text has no characters and stands for its end. -/
inductive Token.Kind where
  | dot | equals | comma | openBracket | closeBracket | openBrace | closeBrace
  | space | newline | comment
  | quoted (q : Quoting)
  | word
  | finish
  deriving DecidableEq, Repr

structure Token where
  kind : Token.Kind
  chars : List Char
  span : Span
  deriving DecidableEq, Repr

namespace Token

/-- The token that a single character is. -/
def punctuation? (c : Char) : Option Kind :=
  if c = '.' then some .dot
  else if c = '=' then some .equals
  else if c = ',' then some .comma
  else if c = '[' then some .openBracket
  else if c = ']' then some .closeBracket
  else if c = '\x7b' then some .openBrace
  else if c = '\x7d' then some .closeBrace
  else if c = '\n' then some .newline
  else none

/-- The character may stand in a word, where quotes are characters like any other. -/
def inWord (c : Char) : Bool :=
  (punctuation? c).isNone && !isSpace c && c != '#' && c != '\r'

def inComment (c : Char) : Bool := c != '\r' && c != '\n'

/-- The length of text on one line, from behind its opening quote to behind the closing one. A
backslash guards a quote or a backslash behind it. -/
def lineLength (q : Quoting) : (guarded : Bool) → (length : Nat) → List Char → Nat
  | _, length, [] => length
  | guarded, length, c :: cs =>
    if c = '\n' then length
    else if guarded && (c == '"' || c == '\\') then lineLength q false (length + 1) cs
    else if c = q.quote then length + 1
    else lineLength q (q.double && c == '\\') (length + 1) cs

/-- The length of text over several lines. Up to two more quotes may stand before the closing
three. -/
def blockLength (q : Quoting) : (guarded : Bool) → (length : Nat) → List Char → Nat
  | _, length, [] => length
  | guarded, length, c :: cs =>
    if guarded && (c == '"' || c == '\\') then blockLength q false (length + 1) cs
    else if c = q.quote ∧ cs.take 2 = [c, c] then
      length + 3 + (((cs.drop 2).take 2).takeWhile (· == c)).length
    else blockLength q (q.double && c == '\\') (length + 1) cs

/-- Quoted text from its opening quote on: how it is quoted, and how long it is. -/
def quotedText (c : Char) (cs : List Char) : Quoting × Nat :=
  let q : Quoting := ⟨c == '"', cs.take 2 == [c, c]⟩
  if q.block then (q, 3 + blockLength q false 0 (cs.drop 2))
  else (q, 1 + lineLength q false 0 cs)

/-- The first token, with its characters. -/
def first : Reader (Kind × List Char)
  | [] => none
  | c :: cs =>
    let run := fun kind (p : Char → Bool) =>
      let (chars, rest) := (c :: cs).span p
      some ((kind, chars), rest)
    match punctuation? c with
    | some kind => some ((kind, [c]), cs)
    | none =>
      if isSpace c then run .space isSpace
      else if c = '#' then run .comment inComment
      else if c = '\r' then
        match cs with
        | '\n' :: rest => some ((.newline, ['\r', '\n']), rest)
        | rest => some ((.newline, ['\r']), rest)
      else if c = '"' ∨ c = '\'' then
        let (q, length) := quotedText c cs
        let (chars, rest) := (c :: cs).splitAt length
        some ((.quoted q, chars), rest)
      else run .word inWord

/-- Tokens with their places, the first of which begins at the given byte, and the end. -/
def place : (start : Nat) → List (Kind × List Char) → List Token
  | start, [] => [⟨.finish, [], .point start⟩]
  | start, (kind, chars) :: rest =>
    let stop := start + Text.byteLength chars
    ⟨kind, chars, ⟨start, stop⟩⟩ :: place stop rest

/-- The mark that may stand in front of a document. -/
def byteOrderMark : Char := '\ufeff'

def all (text : String) : List Token :=
  match text.toList with
  | [] => place 0 []
  | c :: cs =>
    if c = byteOrderMark then place c.utf8Size (many first cs).1
    else place 0 (many first (c :: cs)).1

/-- The token says nothing. -/
def isBlank (t : Token) : Bool :=
  match t.kind with
  | .space | .newline | .comment | .finish => true
  | _ => false

/-- Where the last token that says something ends. -/
def lastStop (tokens : List Token) : Nat :=
  tokens.foldl (fun stop t => if t.isBlank then stop else t.span.stop) 0

/-- Looks at a blank token: a carriage return belongs in front of a newline, and a comment has no
control characters. -/
def check (t : Token) : Except Flaw Unit :=
  match t.kind with
  | .newline =>
    if t.chars = ['\r'] then .error (Cause.bareReturn.at t.span.after) else .ok ()
  | .comment =>
    match t.chars.dropWhile (!isControl ·) with
    | [] => .ok ()
    | rest => .error (Cause.commentCharacter.at (.point (t.span.stop - Text.byteLength rest)))
  | _ => .ok ()

end Token
end Hush.Toml
