import OpticTune.Scalar
import OpticTune.Decimal.Nearest

namespace OpticTune

/-! Machine arithmetic: IEEE doubles. -/

namespace Double

open Decimal

def infinity : Float := 1.0 / 0.0

def truncate (x : Float) : Int :=
  match Binary.ofFloat x with
  | .finite negative mantissa exponent =>
      let (numerator, denominator) := ratio mantissa exponent
      let whole : Int := (numerator / denominator : Nat)
      if negative then -whole else whole
  | _ => 0

/-- The power of a finite value is formed exactly and rounded once. -/
def power (x : Float) (n : Nat) : Float :=
  match Binary.ofFloat x with
  | .finite negative mantissa exponent =>
      let (numerator, denominator) := ratio mantissa exponent
      nearest (negative && n % 2 == 1) ⟨Nat.pow numerator n, Nat.pow denominator n⟩
  | .infinite negative =>
      if n = 0 then 1.0 else if negative && n % 2 == 1 then -infinity else infinity
  | .notANumber => if n = 0 then 1.0 else x

/-- The whole part of the square root of `n`, whose binary digits below `bits`
are still to be added to `root`. -/
def extendRoot (n : Nat) : (bits root : Nat) → Nat
  | 0, root => root
  | bits + 1, root =>
      let longer := root + Nat.pow 2 bits
      extendRoot n bits (if longer * longer ≤ n then longer else root)

def wholeRoot (n : Nat) : Nat :=
  extendRoot n (n.log2 / 2 + 1) 0

/-- The binary digits a root is taken to at the least, more than a double has. -/
def rootDigits : Nat := 64

/-- The double nearest to a square root. What is cut off behind the last digit
counts as half of a unit there: that tells it from the middle between two
doubles, which has fewer digits. -/
def nearestRoot (square : Quotient) : Float :=
  let shifted := square.numerator * square.denominator * Nat.pow 4 rootDigits
  let root := wholeRoot shifted
  let rest := if root * root = shifted then 0 else 1
  nearest false ⟨2 * root + rest, 2 * square.denominator * Nat.pow 2 rootDigits⟩

/-- The length is formed exactly and rounded once, so that squares neither
overflow nor vanish; an infinite side makes it infinite whatever the other is. -/
def hypot (x y : Float) : Float :=
  match Binary.ofFloat x, Binary.ofFloat y with
  | .infinite _, _ => infinity
  | _, .infinite _ => infinity
  | .finite _ mantissa exponent, .finite _ otherMantissa otherExponent =>
      let (a, b) := ratio mantissa exponent
      let (c, d) := ratio otherMantissa otherExponent
      nearestRoot ⟨a * d * (a * d) + c * b * (c * b), b * d * (b * d)⟩
  | _, _ => x + y

end Double

/-- A product that grows visits a new double each time, and there are fewer than
`2 ^ 63` positive ones; a product that once stands still stays where it is. -/
instance : Scalar Float where
  zero := 0.0
  one := 1.0
  intCast := Float.ofInt
  abs := Float.abs
  le x y := decide (x ≤ y)
  lt x y := decide (x < y)
  isFinite := Float.isFinite
  truncate := Double.truncate
  power := Double.power
  growthBound _ _ _ := Nat.pow 2 63

instance : Planar Float where
  hypot := Double.hypot

end OpticTune
