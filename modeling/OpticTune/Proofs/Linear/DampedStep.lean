import Mathlib.LinearAlgebra.Matrix.DotProduct
import Mathlib.LinearAlgebra.Matrix.ToLinearEquiv
import OpticTune.Linear.NormalEquations
import OpticTune.Proofs.Linear.Inverse

namespace OpticTune.Linear

open scoped Matrix

/-! The damped normal equations have exactly one solution, and the step is it. -/

variable {m n : ℕ}

/-- Solves the damped normal equations. -/
def IsDampedStep (jacobian : Matrix (Fin m) (Fin n) ℚ) (residuals : Fin m → ℚ) (damping : ℚ)
    (delta : Fin n → ℚ) : Prop :=
  (jacobianᵀ * jacobian + damping • 1) *ᵥ delta = -(jacobianᵀ *ᵥ residuals)

section Damped

variable (jacobian : Matrix (Fin m) (Fin n) ℚ) {damping : ℚ}

theorem dotProduct_self_nonneg (vector : Fin n → ℚ) : 0 ≤ vector ⬝ᵥ vector :=
  Finset.sum_nonneg fun i _ => mul_self_nonneg (vector i)

theorem dotProduct_damped (delta : Fin n → ℚ) :
    delta ⬝ᵥ (jacobianᵀ * jacobian + damping • 1) *ᵥ delta =
      (jacobian *ᵥ delta) ⬝ᵥ (jacobian *ᵥ delta) + damping * (delta ⬝ᵥ delta) := by
  rw [Matrix.add_mulVec, dotProduct_add, Matrix.smul_mulVec, Matrix.one_mulVec, dotProduct_smul,
    ← Matrix.mulVec_mulVec, Matrix.dotProduct_mulVec, Matrix.vecMul_transpose, smul_eq_mul]

/-- A positive damping leaves no kernel. -/
theorem eq_zero_of_damped (positive : 0 < damping) {delta : Fin n → ℚ}
    (kernel : (jacobianᵀ * jacobian + damping • 1) *ᵥ delta = 0) : delta = 0 := by
  have energy : delta ⬝ᵥ (jacobianᵀ * jacobian + damping • 1) *ᵥ delta = _ :=
    dotProduct_damped jacobian delta
  rw [kernel, dotProduct_zero] at energy
  have image := dotProduct_self_nonneg (jacobian *ᵥ delta)
  have square := dotProduct_self_nonneg delta
  have vanishing : delta ⬝ᵥ delta = 0 := by nlinarith
  exact dotProduct_self_eq_zero.mp vanishing

theorem det_damped_ne_zero (positive : 0 < damping) :
    (jacobianᵀ * jacobian + damping • 1).det ≠ 0 := by
  intro singular
  obtain ⟨delta, nonzero, kernel⟩ := Matrix.exists_mulVec_eq_zero_iff.mpr singular
  exact nonzero (eq_zero_of_damped jacobian positive kernel)

theorem IsDampedStep.unique (positive : 0 < damping) {residuals : Fin m → ℚ}
    {first second : Fin n → ℚ} (firstSolves : IsDampedStep jacobian residuals damping first)
    (secondSolves : IsDampedStep jacobian residuals damping second) : first = second := by
  have kernel : (jacobianᵀ * jacobian + damping • 1) *ᵥ (first - second) = 0 := by
    rw [Matrix.mulVec_sub, firstSolves, secondSolves, sub_self]
  exact sub_eq_zero.mp (eq_zero_of_damped jacobian positive kernel)

end Damped

namespace NormalEquations

/-- Where the damped curvature has an inverse, the step is the product with it. -/
theorem step_eq_of_regular (equations : NormalEquations ℚ n) {damping : ℚ}
    (regular : (equations.damped damping).toMatrix.det ≠ 0) :
    (equations.step damping).determinant = (equations.damped damping).toMatrix.det ∧
      (equations.step damping).delta.get =
        equations.downhill.get ᵥ* (invert (equations.damped damping)).matrix.toMatrix := by
  obtain ⟨singular, _⟩ | ⟨_, determinant, _⟩ := invert_cases (equations.damped damping)
  · exact absurd singular regular
  · have found : equations.step damping = {
        delta := Vector.ofFn fun j => Scalar.sum fun i =>
          equations.downhill.get i * (invert (equations.damped damping)).matrix.get i j
        determinant := (invert (equations.damped damping)).determinant } := by
      unfold step
      simp [determinant, regular]
    rw [found]
    refine ⟨determinant, ?_⟩
    ext j
    simp [Matrix.vecMul, dotProduct, Rational.sum_eq]

/-- An invertible curvature makes the step usable. -/
theorem step_of_regular (equations : NormalEquations ℚ n) {damping : ℚ}
    (regular : (equations.damped damping).toMatrix.det ≠ 0) :
    (equations.step damping).isUsable = true ∧ ∃ inverse : Matrix (Fin n) (Fin n) ℚ,
      inverse * (equations.damped damping).toMatrix = 1 ∧
      (equations.step damping).delta.get = equations.downhill.get ᵥ* inverse := by
  obtain ⟨determinant, delta⟩ := equations.step_eq_of_regular regular
  obtain ⟨singular, _⟩ | ⟨_, _, inverts⟩ := invert_cases (equations.damped damping)
  · exact absurd singular regular
  · refine ⟨?_, _, inverts, delta⟩
    simp [Step.isUsable, determinant, regular]

variable (jacobian : Table ℚ m n) (residuals : Vector ℚ m) {damping : ℚ}

theorem toMatrix_damped : ((ofJacobian jacobian residuals).damped damping).toMatrix =
    jacobian.toMatrixᵀ * jacobian.toMatrix + damping • 1 := by
  ext i j
  simp [damped, ofJacobian, Matrix.mul_apply, Matrix.one_apply, Rational.sum_eq]

theorem downhill_ofJacobian : (ofJacobian jacobian residuals).downhill.get =
    -(jacobian.toMatrixᵀ *ᵥ residuals.get) := by
  ext j
  simp [ofJacobian, Matrix.mulVec, dotProduct, Rational.sum_eq]

/-- The damped curvature is its own transpose, so the product with the inverse on
the right is the solution as well. -/
theorem step_ofJacobian (positive : 0 < damping) :
    ((ofJacobian jacobian residuals).step damping).isUsable = true ∧
      IsDampedStep jacobian.toMatrix residuals.get damping
        ((ofJacobian jacobian residuals).step damping).delta.get := by
  have regular : ((ofJacobian jacobian residuals).damped damping).toMatrix.det ≠ 0 := by
    rw [toMatrix_damped]
    exact det_damped_ne_zero jacobian.toMatrix positive
  obtain ⟨usable, inverse, inverts, delta⟩ := step_of_regular _ regular
  refine ⟨usable, ?_⟩
  rw [toMatrix_damped] at inverts
  have symmetric : (jacobian.toMatrixᵀ * jacobian.toMatrix + damping • 1)ᵀ =
      jacobian.toMatrixᵀ * jacobian.toMatrix + damping • 1 := by
    rw [Matrix.transpose_add, Matrix.transpose_mul, Matrix.transpose_transpose,
      Matrix.transpose_smul, Matrix.transpose_one]
  have transposed : (jacobian.toMatrixᵀ * jacobian.toMatrix + damping • 1) * inverseᵀ = 1 := by
    rw [← symmetric, ← Matrix.transpose_mul, inverts, Matrix.transpose_one]
  rw [IsDampedStep, delta, ← Matrix.mulVec_transpose, Matrix.mulVec_mulVec, transposed,
    Matrix.one_mulVec, downhill_ofJacobian]

end NormalEquations

end OpticTune.Linear
