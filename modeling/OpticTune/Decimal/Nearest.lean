import OpticTune.Decimal.Digits

namespace OpticTune.Decimal

/-! The double nearest to an exact value. -/

def Quotient.inUnits (value : Quotient) (exponent : Int) : Quotient :=
  if exponent < 0 then { value with numerator := value.numerator * Nat.pow 2 (-exponent).toNat }
  else { value with denominator := value.denominator * Nat.pow 2 exponent.toNat }

def Quotient.binaryExponent (value : Quotient) : Int :=
  let guess : Int := (value.numerator.log2 : Int) - value.denominator.log2
  if (value.inUnits guess).floor = 0 then guess - 1 else guess

/-- The bits of the double nearest to a quotient; a tie goes to the even
mantissa, and what is too large is infinite. The mantissa is added to the
exponent field rather than put beside it: a mantissa that was rounded up to the
next power of two then carries into the exponent, and one that is too small for
its leading bit to count leaves the exponent at its least. -/
def nearestBits (value : Quotient) : Nat :=
  if value.numerator = 0 then 0
  else
    let exponent := max (-1074) (value.binaryExponent - 52)
    let mantissa := (value.inUnits exponent).round
    min ((exponent + 1074).toNat * Nat.pow 2 52 + mantissa) (2047 * Nat.pow 2 52)

def nearest (negative : Bool) (value : Quotient) : Float :=
  Float.ofBits (UInt64.ofNat (nearestBits value + if negative then Nat.pow 2 63 else 0))

/-- A decimal `± coefficient * 10 ^ exponent` as a double. Exponents far outside
the range of doubles are told by the number of digits alone. -/
def toFloat (negative : Bool) (coefficient : Nat) (exponent : Int) : Float :=
  let first := (digitCount coefficient : Int) + exponent
  if coefficient = 0 ∨ first < -330 then nearest negative ⟨0, 1⟩
  else if first > 310 then nearest negative ⟨Nat.pow 2 1024, 1⟩
  else nearest negative (Quotient.scale ⟨coefficient, 1⟩ exponent)

def ofInt (number : Int) : Float :=
  nearest (decide (number < 0)) ⟨number.natAbs, 1⟩

end OpticTune.Decimal
