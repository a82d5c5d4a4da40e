import OpticTune.Scalar

namespace OpticTune

/-! Exact arithmetic: every operation is the one of the rational numbers and
every value is finite. -/

namespace Rational

/-- By Bernoulli's inequality `n` multiplications by `factor` multiply by at
least `1 + n * (factor - 1)`, so this many reach `ceiling / start`. -/
def growthBound (start factor ceiling : Rat) : Nat :=
  ((ceiling / start - 1) / (factor - 1)).ceil.toNat + 1

end Rational

instance : Scalar Rat where
  toZero := @Zero.ofOfNat0 Rat Rat.instOfNat
  toOne := @One.ofOfNat1 Rat Rat.instOfNat
  abs x := x.abs
  le x y := decide (x ≤ y)
  lt x y := decide (x < y)
  isFinite _ := true
  truncate x := x.num.tdiv x.den
  power x n := x ^ n
  growthBound := Rational.growthBound

end OpticTune
