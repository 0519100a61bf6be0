import Hush.Binary64

/-!
# Decimal text of binary64 numbers

Measured in units of `10 ^ (-1075)`, every finite binary64 number and every midpoint between two of
them is a whole number. The shortest text is the one with the fewest significant digits that reads
back as the same number, the nearest of those, and the larger of two that are equally near; it is
written without an exponent. Text with fixed places is the exact value rounded once, a tie going to
the even digit.
-/
namespace Hush.Decimal

/-- Places behind the point that every midpoint between numbers fits in. -/
def places : Nat := 1075

/-- Half of the smallest positive number, scaled to a whole number. -/
def halfUnit : Nat := Nat.pow 5 places

def digitCount (n : Nat) : Nat := (Nat.toDigits 10 n).length

/-- The bounds between which text reads back as a magnitude, scaled, and whether they count. -/
structure Window where
  low : Nat
  high : Nat
  closed : Bool

/-- A scaled number reads back as the magnitude of the window. -/
def Window.holds (w : Window) (n : Nat) : Bool :=
  if w.closed then w.low ≤ n && n ≤ w.high else w.low < n && n < w.high

/-- The window of a magnitude. Just above a power of two the gap below is half the gap above. -/
def Window.of (magnitude : Nat) : Window :=
  let value := Binary64.units magnitude * 2 * halfUnit
  let above := Binary64.spacing magnitude * halfUnit
  let below :=
    if magnitude % Binary64.binade = 0 && 1 < Binary64.exponentField magnitude
    then above / 2 else above
  ⟨value - below, value + above, magnitude % 2 = 0⟩

/-- The multiple of `grid` nearest to the value among its two neighbours, if one of them is in the
window. -/
def onGrid (w : Window) (value grid : Nat) : Option Nat :=
  let down := value / grid * grid
  let up := down + grid
  match w.holds down, w.holds up with
  | true, true => some (if value - down < up - value then down else up)
  | true, false => some down
  | false, true => some up
  | false, false => none

/-- The first hit on the grids of the given numbers of digits. -/
def firstOnGrids (w : Window) (value : Nat) : List Nat → Nat
  | [] => value
  | digits :: more =>
    match onGrid w value (Nat.pow 10 (digitCount value - digits)) with
    | some n => n
    | none => firstOnGrids w value more

/-- The scaled decimal of fewest digits that reads back as the magnitude. -/
def shortestScaled (magnitude : Nat) : Nat :=
  let value := Binary64.units magnitude * 2 * halfUnit
  firstOnGrids (Window.of magnitude) value ((List.range 17).map (· + 1))

/-- The digits of a number, with zeros in front up to the given count. -/
def paddedDigits (count n : Nat) : List Char :=
  let digits := Nat.toDigits 10 n
  List.replicate (count - digits.length) '0' ++ digits

def dropZeros (cs : List Char) : List Char := (cs.reverse.dropWhile (· == '0')).reverse

/-- A scaled number as text, with no more places than it needs. -/
def scaledText (n : Nat) : String :=
  let whole := toString (n / Nat.pow 10 places)
  match dropZeros (paddedDigits places (n % Nat.pow 10 places)) with
  | [] => whole
  | fraction => whole ++ "." ++ String.ofList fraction

/-- The text with the sign of a pattern. -/
def signed (x : Binary64) (text : String) : String := if x.isNegative then "-" ++ text else text

/-- The shortest text that reads back as the number. -/
def shortest (x : Binary64) : String :=
  match x.datum with
  | .nan => "NaN"
  | .infinite _ => signed x "inf"
  | .number _ =>
    signed x (if x.magnitude = 0 then "0" else scaledText (shortestScaled x.magnitude))

/-- The shortest text, with a point even for a whole number. -/
def shortestWithPoint (x : Binary64) : String :=
  match x.datum with
  | .number _ =>
    let text := shortest x
    if text.toList.contains '.' then text else text ++ ".0"
  | _ => shortest x

/-- `n / d` to the nearest whole number, a tie going to the even one. -/
def divideEven (n d : Nat) : Nat :=
  let below := n / d
  let rest := n % d
  if 2 * rest < d then below
  else if d < 2 * rest then below + 1
  else if below % 2 = 0 then below
  else below + 1

/-- The text with exactly `count` places, `0 < count`. -/
def fixed (count : Nat) (x : Binary64) : String :=
  match x.datum with
  | .nan => "NaN"
  | .infinite _ => signed x "inf"
  | .number _ =>
    let rounded :=
      divideEven (Binary64.units x.magnitude * 2 * halfUnit) (Nat.pow 10 (places - count))
    signed x (toString (rounded / Nat.pow 10 count) ++ "." ++
      String.ofList (paddedDigits count (rounded % Nat.pow 10 count)))

/-- Text moved to the right of a field of the given width. -/
def rightAligned (width : Nat) (text : String) : String :=
  String.ofList (List.replicate (width - text.length) ' ') ++ text

end Hush.Decimal
