/-!
# Binary64 numbers

A 64-bit pattern read as a floating-point number. Every finite pattern stands for a whole number
of the unit `2 ^ (-1074)`, so its value is an exact rational, and each operation is the exact
operation on rationals followed by rounding to the nearest pattern, a tie going to the even one.
The pattern itself is the representation: nothing a pattern says is lost by holding it.
-/
namespace Hush

/-- A number as its pattern: sign, eleven bits of exponent, 52 bits of fraction. -/
structure Binary64 where
  bits : UInt64
  deriving DecidableEq, Repr

namespace Binary64

/-- The number of fractions that share an exponent. -/
def binade : Nat := Nat.pow 2 52

/-- The magnitude of the infinities; larger magnitudes are not numbers. -/
def infinityMagnitude : Nat := 2047 * binade

/-- The bit above all magnitudes. -/
def signBit : Nat := Nat.pow 2 63

/-- The pattern with the given sign and magnitude bits. -/
def ofMagnitude (negative : Bool) (magnitude : Nat) : Binary64 :=
  ⟨UInt64.ofNat ((if negative then signBit else 0) + magnitude)⟩

/-- The sign bit is set. -/
def isNegative (x : Binary64) : Bool := signBit ≤ x.bits.toNat

/-- The pattern without its sign, in the order of the absolute values. -/
def magnitude (x : Binary64) : Nat := x.bits.toNat % signBit

def exponentField (magnitude : Nat) : Nat := magnitude / binade

/-- The distance of a magnitude from the next one, in units of `2 ^ (-1074)`. -/
def spacing (magnitude : Nat) : Nat := Nat.pow 2 (exponentField magnitude - 1)

/-- The absolute value of a finite magnitude, in units of `2 ^ (-1074)`. -/
def units (magnitude : Nat) : Nat :=
  let fraction := magnitude % binade
  if exponentField magnitude = 0 then fraction else (binade + fraction) * spacing magnitude

/-- Units in one. -/
def unitsPerOne : Nat := Nat.pow 2 1074

/-- What a pattern stands for. Both zeros are the number zero. -/
inductive Datum where
  | number (value : Rat)
  | infinite (negative : Bool)
  | nan
  deriving DecidableEq

/-- The rational with the given sign and number of units. -/
def ofUnits (negative : Bool) (n : Nat) : Rat :=
  let value : Rat := (n : Rat) / (unitsPerOne : Rat)
  if negative then -value else value

def datum (x : Binary64) : Datum :=
  if x.magnitude < infinityMagnitude then .number (ofUnits x.isNegative (units x.magnitude))
  else if x.magnitude = infinityMagnitude then .infinite x.isNegative
  else .nan

def isNaN (x : Binary64) : Bool := infinityMagnitude < x.magnitude

/-- The pattern every undefined operation gives. -/
def nan : Binary64 := ofMagnitude false (infinityMagnitude + binade / 2)

def infinity (negative : Bool) : Binary64 := ofMagnitude negative infinityMagnitude

/-- The nearest whole number, a tie going to the even one. -/
def roundEven (q : Rat) : Int :=
  let below := q.floor
  let rest := q - below
  if rest < 1 / 2 then below
  else if 1 / 2 < rest then below + 1
  else if below % 2 = 0 then below
  else below + 1

/-- The magnitude nearest to a rational that is not negative. The grid is that of the rational's
own binade; rounding up to the next power of two carries into the exponent by itself. -/
def nearestMagnitude (q : Rat) : Nat :=
  let scaled := q * (unitsPerOne : Rat)
  let shift := scaled.floor.toNat.log2 - 52
  min (shift * binade + (roundEven (scaled / (Nat.pow 2 shift : Nat))).toNat) infinityMagnitude

/-- The pattern nearest to a rational; a zero takes the given sign. -/
def nearest (zeroNegative : Bool) (q : Rat) : Binary64 :=
  if q = 0 then ofMagnitude zeroNegative 0
  else if q < 0 then ofMagnitude true (nearestMagnitude (-q))
  else ofMagnitude false (nearestMagnitude q)

def ofInt (n : Int) : Binary64 := nearest false n

/-- The sign bit turned over. -/
def neg (x : Binary64) : Binary64 := ofMagnitude (!x.isNegative) x.magnitude

/-- The rounded sum. An exact sum of zero is negative for two negative zeros only. -/
def add (x y : Binary64) : Binary64 :=
  match x.datum, y.datum with
  | .number p, .number q => nearest (x.isNegative && y.isNegative) (p + q)
  | .infinite s, .infinite t => if s = t then infinity s else nan
  | .infinite s, .number _ => infinity s
  | .number _, .infinite t => infinity t
  | _, _ => nan

def sub (x y : Binary64) : Binary64 := add x y.neg

def mul (x y : Binary64) : Binary64 :=
  let negative := x.isNegative != y.isNegative
  match x.datum, y.datum with
  | .number p, .number q => nearest negative (p * q)
  | .infinite _, .infinite _ => infinity negative
  | .infinite _, .number q => if q = 0 then nan else infinity negative
  | .number p, .infinite _ => if p = 0 then nan else infinity negative
  | _, _ => nan

def div (x y : Binary64) : Binary64 :=
  let negative := x.isNegative != y.isNegative
  match x.datum, y.datum with
  | .number p, .number q =>
    if q = 0 then if p = 0 then nan else infinity negative
    else nearest negative (p / q)
  | .infinite _, .number _ => infinity negative
  | .number _, .infinite _ => ofMagnitude negative 0
  | _, _ => nan

instance : Neg Binary64 := ⟨neg⟩
instance : Add Binary64 := ⟨add⟩
instance : Sub Binary64 := ⟨sub⟩
instance : Mul Binary64 := ⟨mul⟩
instance : Div Binary64 := ⟨div⟩
instance (n : Nat) : OfNat Binary64 n := ⟨ofInt n⟩

/-- The order of what patterns stand for; nothing holds of a pattern that is no number. -/
def Below (x y : Binary64) : Prop :=
  match x.datum, y.datum with
  | .number p, .number q => p < q
  | .infinite s, .infinite t => s = true ∧ t = false
  | .infinite s, .number _ => s = true
  | .number _, .infinite t => t = false
  | _, _ => False

instance : LT Binary64 := ⟨Below⟩

instance (x y : Binary64) : Decidable (x < y) := by
  change Decidable (Below x y)
  unfold Below
  split <;> infer_instance

/-- The same value; zeros are equal and what is no number equals nothing. -/
def Same (x y : Binary64) : Prop :=
  match x.datum, y.datum with
  | .number p, .number q => p = q
  | .infinite s, .infinite t => s = t
  | _, _ => False

instance (x y : Binary64) : Decidable (Same x y) := by
  unfold Same
  split <;> infer_instance

instance : LE Binary64 := ⟨fun x y => x < y ∨ Same x y⟩

instance (x y : Binary64) : Decidable (x ≤ y) :=
  inferInstanceAs (Decidable (x < y ∨ Same x y))

def smaller (x y : Binary64) : Binary64 := if x < y then x else y

end Binary64
end Hush
