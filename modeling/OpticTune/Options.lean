import OpticTune.Act
import OpticTune.Scalar

namespace OpticTune

/-! A user's options for the automatic adjustment.

Every option has a legal range. A value outside is replaced by the nearer end
and reported, never refused, so that stale options do not block a fit; a value
that is not a number is replaced by the lower end.
-/

variable {α σ : Type}

structure Options (α : Type) where
  step : α
  maxIterations : Int
  tolerance : α

structure Range (β : Type) where
  low : β
  high : β

namespace Options

open Log (Record)

def iterationRange : Range Int := ⟨1, 1000⟩

def defaultMaxIterations : Int := 100

def clampCount (name : String) (range : Range Int) (given : Int) : Act α σ Int := do
  let used := max range.low (min given range.high)
  unless used = given do
    Act.report (.optionClamped name (.count given) (.count range.low) (.count range.high)
      (.count used))
  return used

variable [Scalar α]

def stepRange : Range α := ⟨1e-12, 1.0⟩
def toleranceRange : Range α := ⟨1e-20, 1.0⟩

def defaultStep : α := 1e-6
def defaultTolerance : α := 1e-12

def clamped (range : Range α) (given : α) : α :=
  Scalar.max range.low (Scalar.min given range.high)

def sameValue (x y : α) : Bool :=
  Scalar.le x y && Scalar.le y x

def clampReal (name : String) (range : Range α) (given : α) : Act α σ α := do
  let used := clamped range given
  unless sameValue used given do
    Act.report (.optionClamped name (.real given) (.real range.low) (.real range.high)
      (.real used))
  return used

def make (step : α) (maxIterations : Int) (tolerance : α) : Act α σ (Options α) := do
  let step ← clampReal "step" stepRange step
  let maxIterations ← clampCount "max_iterations" iterationRange maxIterations
  let tolerance ← clampReal "tolerance" toleranceRange tolerance
  return { step, maxIterations, tolerance }

def usual (step : Option α) (maxIterations : Option Int) (tolerance : Option α) :
    Act α σ (Options α) :=
  make (step.getD defaultStep) (maxIterations.getD defaultMaxIterations)
    (tolerance.getD defaultTolerance)

end Options

end OpticTune
