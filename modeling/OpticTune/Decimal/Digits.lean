import OpticTune.Decimal.Binary

namespace OpticTune.Decimal

/-! Decimal digits of a positive value, to a number of digits or as few as read
back.

All arithmetic is on natural numbers: a value is a quotient, and scaling it by a
power of ten multiplies one of its sides.
-/

/-- The value `coefficient * 10 ^ (exponent - count + 1)`, where the coefficient
has `count` digits, so that `exponent` is the exponent of its first digit. -/
structure Digits where
  coefficient : Nat
  count : Nat
  exponent : Int
deriving Repr, DecidableEq

/-- The digits of a coefficient that may have been rounded up to the next power
of ten. -/
def Digits.make (coefficient count : Nat) (exponent : Int) : Digits :=
  if coefficient = Nat.pow 10 count then
    { coefficient := Nat.pow 10 (count - 1), count, exponent := exponent + 1 }
  else
    { coefficient, count, exponent }

structure Quotient where
  numerator : Nat
  denominator : Nat

def Quotient.scale (value : Quotient) (power : Int) : Quotient :=
  if power < 0 then { value with denominator := value.denominator * Nat.pow 10 (-power).toNat }
  else { value with numerator := value.numerator * Nat.pow 10 power.toNat }

def Quotient.floor (value : Quotient) : Nat :=
  value.numerator / value.denominator

/-- The nearest whole number; of two, the even one. -/
def Quotient.round (value : Quotient) : Nat :=
  let whole := value.floor
  let rest := 2 * (value.numerator % value.denominator)
  if rest < value.denominator then whole
  else if value.denominator < rest then whole + 1
  else whole + whole % 2

def digitCount (n : Nat) : Nat :=
  (Nat.toDigits 10 n).length

def Quotient.exponent (value : Quotient) : Int :=
  let guess : Int := (digitCount value.numerator : Int) - digitCount value.denominator
  if (value.scale (-guess)).floor = 0 then guess - 1 else guess

def Quotient.digits (value : Quotient) (count : Nat) : Digits :=
  let exponent := value.exponent
  Digits.make (value.scale ((count : Int) - 1 - exponent)).round count exponent

/-- The digits without the zeros at their end. -/
def Digits.text (digits : Digits) : List Char :=
  let all := Nat.toDigits 10 digits.coefficient
  match (all.reverse.dropWhile (· == '0')).reverse with
  | [] => ['0']
  | short => short

/-- Bounds of the values that read as a double: those nearer to it than to its
neighbours, in quarters of its unit in the last place, and both ends themselves
if its mantissa is even. Below a power of two the neighbour is half as far. -/
structure ReadingBounds where
  low : Nat
  middle : Nat
  high : Nat
  endsIncluded : Bool

def ReadingBounds.ofBinary (mantissa : Nat) (exponent : Int) : ReadingBounds where
  low := if mantissa = Nat.pow 2 52 ∧ -1074 < exponent then 4 * mantissa - 1 else 4 * mantissa - 2
  middle := 4 * mantissa
  high := 4 * mantissa + 2
  endsIncluded := mantissa % 2 == 0

/-- Whether `coefficient` lies within the bounds, these being given in `unit`s. -/
def ReadingBounds.contains (bounds : ReadingBounds) (unit : Quotient) (coefficient : Nat) : Bool :=
  let place := coefficient * unit.denominator
  let low := bounds.low * unit.numerator
  let high := bounds.high * unit.numerator
  if bounds.endsIncluded then decide (low ≤ place) && decide (place ≤ high)
  else decide (low < place) && decide (place < high)

/-- The decimal of `count` digits that reads as the double and is nearest to it,
if there is one. Only the two decimals beside the value have to be looked at. -/
def readingDigits? (bounds : ReadingBounds) (quarter : Quotient) (exponent : Int) (count : Nat) :
    Option Digits :=
  let unit := quarter.scale ((count : Int) - 1 - exponent)
  let value : Quotient := { unit with numerator := bounds.middle * unit.numerator }
  let below := value.floor
  let nearest := value.round
  let other := if nearest = below then below + 1 else below
  if bounds.contains unit nearest then some (Digits.make nearest count exponent)
  else if bounds.contains unit other then some (Digits.make other count exponent)
  else none

/-- The fewest digits that read as the double `mantissa * 2 ^ exponent`; of
several decimals of that length, the nearest. Seventeen digits always do. -/
def shortest (mantissa : Nat) (exponent : Int) : Digits :=
  let (numerator, denominator) := ratio mantissa exponent
  let value : Quotient := { numerator, denominator }
  let bounds := ReadingBounds.ofBinary mantissa exponent
  let (numerator, denominator) := ratio 1 (exponent - 2)
  let first := value.exponent
  let found := (List.range 17).findSome? fun n =>
    readingDigits? bounds { numerator, denominator } first (n + 1)
  found.getD (value.digits 17)

end OpticTune.Decimal
