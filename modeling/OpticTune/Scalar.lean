namespace OpticTune

/-! The arithmetic a fit is carried out in.

Every algorithm of this library is written once, over a `Scalar`, and uses
nothing of its arithmetic but the operations listed here. Comparisons answer
with a `Bool` and need not be total, so a type with a not-a-number element
qualifies; division is never guarded here, callers ask `isZero` first.
-/

class Scalar (α : Type) extends Zero α, One α, Add α, Sub α, Mul α, Div α, Neg α,
    OfScientific α, IntCast α where
  abs : α → α
  le : α → α → Bool
  lt : α → α → Bool
  isFinite : α → Bool
  /-- The whole part, toward zero; of no meaning unless the value is finite. -/
  truncate : α → Int
  /-- A power with a natural exponent, rounded no more than once. -/
  power : α → Nat → α
  /-- A number of multiplications by `factor` that takes `start` to `ceiling` or
  above, whenever some number of them does. -/
  growthBound : (start factor ceiling : α) → Nat

namespace Scalar

variable {α : Type} [Scalar α]

/-- Equal to zero, whatever the sign of the zero. -/
def isZero (x : α) : Bool :=
  le x 0 && le 0 x

/-- Only a value that is not a number is not below or equal to itself. -/
def isNaN (x : α) : Bool :=
  !le x x

/-- Whether `x` takes the lead over `best` in a search for the largest value:
it is larger, or it is the first that is not a number. -/
def outranks (x best : α) : Bool :=
  lt best x || (isNaN x && !isNaN best)

/-- The first argument, unless the second is larger. -/
def max (x y : α) : α :=
  if lt x y then y else x

/-- The first argument, unless the second is smaller. -/
def min (x y : α) : α :=
  if lt y x then y else x

/-- The sum over all places, from zero, first place first. -/
def sum {n : Nat} (f : Fin n → α) : α :=
  Fin.foldl n (fun total i => total + f i) 0

def sumOfSquares (values : List α) : α :=
  values.foldl (fun total x => total + x * x) 0

end Scalar

class Planar (α : Type) where
  hypot : α → α → α

end OpticTune
