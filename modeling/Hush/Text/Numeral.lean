import Hush.Text.Blank

/-!
# Numerals

The texts that stand for a number, whole or not: digits with a point among or beside them and an
exponent behind, or a word for infinity or for what is no number, each with a sign in front if
need be.
-/
namespace Hush.Text

def unsigned : List Char → List Char
  | '+' :: rest => rest
  | '-' :: rest => rest
  | rest => rest

/-- The words that stand for numbers without digits, in any letter case. -/
def numberWords : List (List Char) := ["inf".toList, "infinity".toList, "nan".toList]

/-- The text is an exponent with its letter, or empty. -/
def isExponent : List Char → Bool
  | [] => true
  | c :: rest => (c == 'e' || c == 'E') && unsigned rest != [] && (unsigned rest).all Char.isDigit

/-- The text is digits with at most one point, and then an exponent. -/
def isDecimal (cs : List Char) : Bool :=
  let (whole, rest) := cs.span Char.isDigit
  let (fraction, rest) := match rest with
    | '.' :: rest => rest.span Char.isDigit
    | rest => ([], rest)
  !(whole.isEmpty && fraction.isEmpty) && isExponent rest

def isNumeral (cs : List Char) : Bool :=
  numberWords.contains (foldCase (unsigned cs)) || isDecimal (unsigned cs)

end Hush.Text
