import OpticTune.Scalar.Double

namespace OpticTune

/-! Machine arithmetic without the smallest doubles.

A double below the normal range counts as zero wherever something is computed
from it, and nothing below that range is ever a result. What is only passed on,
or changes no more than its sign, stays as it is.
-/

structure Flushed where
  value : Float

namespace Flushed

def smallestNormal : Float := Float.scaleB 1.0 (-1022)

/-- A zero of the same sign in place of a double below the normal range. -/
def flush (x : Float) : Float :=
  if x.abs < smallestNormal then x * 0.0 else x

def counted (x : Flushed) : Float :=
  flush x.value

def computed (x : Float) : Flushed :=
  { value := flush x }

end Flushed

open Flushed

instance : Scalar Flushed where
  zero := { value := 0.0 }
  one := { value := 1.0 }
  add x y := computed (x.counted + y.counted)
  sub x y := computed (x.counted - y.counted)
  mul x y := computed (x.counted * y.counted)
  div x y := computed (x.counted / y.counted)
  neg x := { value := -x.value }
  ofScientific mantissa negative exponent :=
    { value := OfScientific.ofScientific mantissa negative exponent }
  intCast number := { value := Float.ofInt number }
  abs x := { value := x.value.abs }
  le x y := decide (x.counted ≤ y.counted)
  lt x y := decide (x.counted < y.counted)
  isFinite x := x.value.isFinite
  truncate x := Double.truncate x.counted
  power x n := computed (Double.power x.counted n)
  growthBound _ _ _ := Nat.pow 2 63

end OpticTune
