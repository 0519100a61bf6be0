import Hush.Binary64

/-!
# Logarithms to base two

The binary digits of a logarithm come by squaring: a number between one and two has the next digit
one exactly when its square reaches two, and the square, halved if need be, holds the digits after
it. The numbers are held in fixed point with more places than digits are taken, and the sum of the
digits is rounded once at the end.
-/
namespace Hush.Binary64

/-- Places of the fixed point. -/
def logPlaces : Nat := 208

/-- Digits taken after the point. -/
def logDigits : Nat := 192

/-- The next `n` digits of the logarithm of `y`, as a whole number, after the digits `read`.
Here `y` is in fixed point, at least one and below two. -/
def logDigitsOf : (n y read : Nat) → Nat
  | 0, _, read => read
  | n + 1, y, read =>
    let square := y * y / Nat.pow 2 logPlaces
    if Nat.pow 2 (logPlaces + 1) ≤ square then logDigitsOf n (square / 2) (2 * read + 1)
    else logDigitsOf n square (2 * read)

/-- The logarithm of a number of units, measured in `2 ^ (-logDigits)` and rounded down. -/
def logOfUnits (n : Nat) : Int :=
  let top := n.log2
  let mantissa := n * Nat.pow 2 logPlaces / Nat.pow 2 top
  ((top : Int) - 1074) * Nat.pow 2 logDigits + logDigitsOf logDigits mantissa 0

def log2 (x : Binary64) : Binary64 :=
  match x.datum with
  | .nan => nan
  | .infinite negative => if negative then nan else infinity false
  | .number q =>
    if q = 0 then infinity true
    else if q < 0 then nan
    else nearest false ((logOfUnits (units x.magnitude) : Rat) / (Nat.pow 2 logDigits : Nat))

end Hush.Binary64
