import OpticTune.Linear.Inverse

namespace OpticTune.Linear

/-! The damped normal equations of a least-squares step.

With Jacobian `J` and residuals `r` the downhill gradient is `-Jᵀ r` and the
curvature `Jᵀ J`; the step for damping `L` solves
`(Jᵀ J + L I) delta = -Jᵀ r`.
-/

variable {α : Type} [Scalar α] {m n : Nat}

structure NormalEquations (α : Type) (n : Nat) where
  downhill : Vector α n
  curvature : Table α n n

def NormalEquations.ofJacobian (jacobian : Table α m n) (residuals : Vector α m) :
    NormalEquations α n where
  downhill := Vector.ofFn fun k => -Scalar.sum fun i => jacobian.get i k * residuals.get i
  curvature := Table.ofFn fun j k => Scalar.sum fun i => jacobian.get i j * jacobian.get i k

/-- A proposed change of the parameters, with the determinant of the damped
curvature. A determinant of zero marks a step that cannot be used; it is then
zero throughout. -/
structure Step (α : Type) (n : Nat) where
  delta : Vector α n
  determinant : α

def Step.unusable : Step α n where
  delta := Vector.replicate n 0
  determinant := 0

def Step.isUsable (step : Step α n) : Bool :=
  !Scalar.isZero step.determinant

namespace NormalEquations

/-- The curvature with the damping added along the diagonal. The damping is
multiplied with the identity matrix, so one that is not finite spoils every
entry. -/
def damped (equations : NormalEquations α n) (damping : α) : Table α n n :=
  Table.ofFn fun i j => equations.curvature.get i j + damping * (if i = j then 1 else 0)

/-- The damped step, if neither it nor the determinant overflowed. -/
def step (equations : NormalEquations α n) (damping : α) : Step α n :=
  let inverse := invert (equations.damped damping)
  let delta : Vector α n := Vector.ofFn fun j =>
    Scalar.sum fun i => equations.downhill.get i * inverse.matrix.get i j
  if Scalar.isZero inverse.determinant || !Scalar.isFinite inverse.determinant
      || !delta.all Scalar.isFinite then
    Step.unusable
  else
    { delta, determinant := inverse.determinant }

end NormalEquations

end OpticTune.Linear
