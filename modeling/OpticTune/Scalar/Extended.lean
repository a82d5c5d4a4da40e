import OpticTune.Scalar.Rational

namespace OpticTune

/-! Exact arithmetic with values that are not finite.

To the rational numbers two infinities are added and one value that is not a
number, under the rules of floating-point arithmetic without its rounding: a
finite operation never overflows. There is a single zero, and a division by it
counts it as positive.
-/

inductive Extended where
  | finite (value : Rat)
  | infinite (negative : Bool)
  | notANumber
deriving DecidableEq, Repr

namespace Extended

def isNegative : Extended → Bool
  | finite x => decide (x < 0)
  | infinite negative => negative
  | notANumber => false

def isFinite : Extended → Bool
  | finite _ => true
  | _ => false

def neg : Extended → Extended
  | finite x => finite (-x)
  | infinite negative => infinite !negative
  | notANumber => notANumber

def add : Extended → Extended → Extended
  | finite x, finite y => finite (x + y)
  | infinite negative, finite _ => infinite negative
  | finite _, infinite negative => infinite negative
  | infinite negative, infinite other => if negative = other then infinite negative else notANumber
  | _, _ => notANumber

/-- Zero times an infinity is not a number. -/
def mul : Extended → Extended → Extended
  | finite x, finite y => finite (x * y)
  | notANumber, _ => notANumber
  | _, notANumber => notANumber
  | x, y =>
      if x = finite 0 ∨ y = finite 0 then notANumber
      else infinite (x.isNegative != y.isNegative)

def inverse : Extended → Extended
  | finite x => if x = 0 then infinite false else finite x⁻¹
  | infinite _ => finite 0
  | notANumber => notANumber

def abs : Extended → Extended
  | finite x => finite x.abs
  | infinite _ => infinite false
  | notANumber => notANumber

/-- No comparison holds with what is not a number. -/
def le : Extended → Extended → Bool
  | notANumber, _ => false
  | _, notANumber => false
  | infinite true, _ => true
  | _, infinite false => true
  | finite x, finite y => decide (x ≤ y)
  | _, _ => false

def truncate : Extended → Int
  | finite x => x.num.tdiv x.den
  | _ => 0

def power : Extended → Nat → Extended
  | finite x, n => finite (x ^ n)
  | _, 0 => finite 1
  | infinite negative, n => infinite (negative && n % 2 == 1)
  | notANumber, _ => notANumber

/-- Where something is infinite, one multiplication does what any number of them
does. -/
def growthBound : (start factor ceiling : Extended) → Nat
  | finite start, finite factor, finite ceiling => Rational.growthBound start factor ceiling
  | _, _, _ => 1

end Extended

instance : Scalar Extended where
  zero := .finite 0
  one := .finite 1
  add := Extended.add
  sub x y := x.add y.neg
  mul := Extended.mul
  div x y := x.mul y.inverse
  neg := Extended.neg
  ofScientific mantissa negative exponent :=
    .finite (OfScientific.ofScientific mantissa negative exponent)
  intCast number := .finite number
  abs := Extended.abs
  le := Extended.le
  lt x y := x.le y && !y.le x
  isFinite := Extended.isFinite
  truncate := Extended.truncate
  power := Extended.power
  growthBound := Extended.growthBound

end OpticTune
