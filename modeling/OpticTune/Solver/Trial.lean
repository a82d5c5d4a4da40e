import OpticTune.Solver.Config
import OpticTune.Solver.Host

namespace OpticTune.Solver

/-! How a damped step is judged, once it has been tried. -/

variable {α : Type} [Scalar α]

/-- No sum of squares that is not finite counts as evaluated. -/
def hasFailed (sos : Option α) : Bool :=
  match sos with
  | some value => !Scalar.isFinite value
  | none => true

/-- The change of a sum of squares relative to `1 + start`, which is safe near
zero; there is none if that scale is zero. -/
def relativeRise (sos start : α) : Except Fault α :=
  if Scalar.isZero (1 + start) then .error .zeroScale
  else .ok ((sos - start) / (1 + start))

inductive Verdict where
  /-- Kept: the fall exceeds the tolerance. -/
  | down
  /-- Kept: the fall is within the tolerance. -/
  | level
  /-- Undone: the rise is too small to try again. -/
  | negligible
  /-- Undone, and to be tried with more damping. -/
  | rejected
deriving Repr, DecidableEq

def judge (tolerance : α) (sos : Option α) (start : α) : Except Fault Verdict := do
  let rise ← relativeRise (sos.getD 0) start
  if hasFailed sos then return .rejected
  if Scalar.le rise (-tolerance) then return .down
  if Scalar.le rise 0 then return .level
  if Scalar.lt rise tolerance then return .negligible
  return .rejected

end OpticTune.Solver
