import Mathlib.Algebra.Order.Star.Real
import Mathlib.Analysis.Matrix.PosDef
import OpticTune.Proofs.Linear.DampedStep

namespace OpticTune.Linear

open scoped Matrix

/-! What the damped step is the best of: it makes the residuals, as far as the
Jacobian foretells them, as small as the price of its own length allows. -/

variable {m n : ℕ}

section Cost

variable (jacobian : Matrix (Fin m) (Fin n) ℚ) (residuals : Fin m → ℚ) (damping : ℚ)

/-- The residuals foretold for a step, squared, and the price of its length. -/
def dampedCost (delta : Fin n → ℚ) : ℚ :=
  (residuals + jacobian *ᵥ delta) ⬝ᵥ (residuals + jacobian *ᵥ delta) + damping * (delta ⬝ᵥ delta)

variable {jacobian residuals damping}

/-- Away from the damped step the cost only grows: its slope there is zero. -/
theorem dampedCost_add {delta : Fin n → ℚ}
    (solves : IsDampedStep jacobian residuals damping delta) (away : Fin n → ℚ) :
    dampedCost jacobian residuals damping (delta + away) =
      dampedCost jacobian residuals damping delta +
        ((jacobian *ᵥ away) ⬝ᵥ (jacobian *ᵥ away) + damping * (away ⬝ᵥ away)) := by
  have slope : (residuals + jacobian *ᵥ delta) ⬝ᵥ (jacobian *ᵥ away) +
      damping * (delta ⬝ᵥ away) = 0 := by
    have vanishing : jacobianᵀ *ᵥ (residuals + jacobian *ᵥ delta) + damping • delta = 0 := by
      rw [IsDampedStep, Matrix.add_mulVec, Matrix.smul_mulVec, Matrix.one_mulVec,
        ← Matrix.mulVec_mulVec] at solves
      rw [Matrix.mulVec_add, add_assoc, solves, add_neg_cancel]
    rw [Matrix.dotProduct_mulVec, ← Matrix.mulVec_transpose, ← smul_eq_mul, ← smul_dotProduct,
      ← add_dotProduct, vanishing, zero_dotProduct]
  have split : residuals + jacobian *ᵥ (delta + away) =
      (residuals + jacobian *ᵥ delta) + jacobian *ᵥ away := by
    rw [Matrix.mulVec_add, add_assoc]
  rw [dampedCost, dampedCost, split]
  simp only [add_dotProduct (residuals + jacobian *ᵥ delta), dotProduct_add _ (residuals + _),
    add_dotProduct delta, dotProduct_add _ delta,
    dotProduct_comm (jacobian *ᵥ away) (residuals + jacobian *ᵥ delta), dotProduct_comm away delta]
  linarith

/-- Nothing costs as little as the damped step. -/
theorem IsDampedStep.minimises_iff (positive : 0 < damping) {delta : Fin n → ℚ}
    (solves : IsDampedStep jacobian residuals damping delta) (best : Fin n → ℚ) :
    (∀ other, dampedCost jacobian residuals damping best ≤
      dampedCost jacobian residuals damping other) ↔ best = delta := by
  have growth : ∀ other, dampedCost jacobian residuals damping other =
      dampedCost jacobian residuals damping delta +
        ((jacobian *ᵥ (other - delta)) ⬝ᵥ (jacobian *ᵥ (other - delta)) +
          damping * ((other - delta) ⬝ᵥ (other - delta))) := by
    intro other
    rw [← dampedCost_add solves, add_sub_cancel]
  constructor
  · intro minimal
    have least := minimal delta
    have image := dotProduct_self_nonneg (jacobian *ᵥ (best - delta))
    have square := dotProduct_self_nonneg (best - delta)
    rw [growth best] at least
    have vanishing : (best - delta) ⬝ᵥ (best - delta) = 0 := by nlinarith
    exact sub_eq_zero.mp (dotProduct_self_eq_zero.mp vanishing)
  · rintro rfl other
    have image := dotProduct_self_nonneg (jacobian *ᵥ (other - best))
    have square := mul_nonneg positive.le (dotProduct_self_nonneg (other - best))
    rw [growth other]
    linarith

/-- The way the step goes is downhill, unless the ground is flat. -/
theorem IsDampedStep.downhill (positive : 0 < damping) {delta : Fin n → ℚ}
    (solves : IsDampedStep jacobian residuals damping delta) :
    0 ≤ -(jacobianᵀ *ᵥ residuals) ⬝ᵥ delta ∧
      (-(jacobianᵀ *ᵥ residuals) ⬝ᵥ delta = 0 ↔ -(jacobianᵀ *ᵥ residuals) = 0) := by
  have energy : -(jacobianᵀ *ᵥ residuals) ⬝ᵥ delta =
      (jacobian *ᵥ delta) ⬝ᵥ (jacobian *ᵥ delta) + damping * (delta ⬝ᵥ delta) := by
    rw [← dotProduct_damped, solves, dotProduct_comm]
  have image := dotProduct_self_nonneg (jacobian *ᵥ delta)
  have square := mul_nonneg positive.le (dotProduct_self_nonneg delta)
  refine ⟨by rw [energy]; exact add_nonneg image square, ?_⟩
  constructor
  · intro level
    have vanishing : damping * (delta ⬝ᵥ delta) = 0 := by linarith
    have still : delta = 0 :=
      dotProduct_self_eq_zero.mp ((mul_eq_zero.mp vanishing).resolve_left positive.ne')
    rw [← solves, still, Matrix.mulVec_zero]
  · intro flat
    rw [flat, zero_dotProduct]

end Cost

/-- Whatever the Jacobian, damping makes the curvature positive definite. -/
theorem det_damped_pos (jacobian : Matrix (Fin m) (Fin n) ℚ) {damping : ℚ}
    (positive : 0 < damping) : 0 < (jacobianᵀ * jacobian + damping • 1).det := by
  -- The library has definite matrices over the reals; the determinant is the same there.
  let real := jacobian.map (Rat.cast : ℚ → ℝ)
  have cast : (jacobianᵀ * jacobian + damping • 1).map (Rat.cast : ℚ → ℝ) =
      realᴴ * real + (damping : ℝ) • 1 := by
    ext i j
    simp [real, Matrix.mul_apply, Matrix.one_apply, apply_ite (Rat.cast : ℚ → ℝ)]
  have definite : (realᴴ * real + (damping : ℝ) • 1).PosDef :=
    Matrix.PosDef.posSemidef_add (Matrix.posSemidef_conjTranspose_mul_self real)
      (Matrix.PosDef.one.smul (Rat.cast_pos.mpr positive))
  have commutes : ((jacobianᵀ * jacobian + damping • 1).det : ℝ) =
      ((jacobianᵀ * jacobian + damping • 1).map (Rat.cast : ℚ → ℝ)).det :=
    (Rat.castHom ℝ).map_det _
  have image := definite.det_pos
  rw [← cast, ← commutes] at image
  exact Rat.cast_pos.mp image

/-- There is a damped step for every Jacobian; it solves the normal equations, costs
less than any other step, and goes downhill until there is no slope. -/
theorem step_minimises (jacobian : Table ℚ m n) (residuals : Vector ℚ m) (damping : ℚ)
    (positive : 0 < damping) :
    let equations := NormalEquations.ofJacobian jacobian residuals
    let step := equations.step damping
    step.determinant = (jacobian.toMatrixᵀ * jacobian.toMatrix + damping • 1).det ∧
    0 < step.determinant ∧ step.isUsable = true ∧
    step.delta.get =
      equations.downhill.get ᵥ* (invert (equations.damped damping)).matrix.toMatrix ∧
    (jacobian.toMatrixᵀ * jacobian.toMatrix + damping • 1) *ᵥ step.delta.get =
      -(jacobian.toMatrixᵀ *ᵥ residuals.get) ∧
    (∀ best, (∀ other, dampedCost jacobian.toMatrix residuals.get damping best ≤
      dampedCost jacobian.toMatrix residuals.get damping other) ↔ best = step.delta.get) ∧
    0 ≤ equations.downhill.get ⬝ᵥ step.delta.get ∧
    (equations.downhill.get ⬝ᵥ step.delta.get = 0 ↔ equations.downhill.get = 0) := by
  intro equations step
  have definite : 0 < (equations.damped damping).toMatrix.det := by
    rw [NormalEquations.toMatrix_damped]
    exact det_damped_pos jacobian.toMatrix positive
  obtain ⟨determinant, product⟩ := equations.step_eq_of_regular definite.ne'
  obtain ⟨usable, solves⟩ := NormalEquations.step_ofJacobian jacobian residuals positive
  have descent := solves.downhill positive
  rw [← NormalEquations.downhill_ofJacobian] at descent
  refine ⟨?_, determinant ▸ definite, usable, product, solves, solves.minimises_iff positive,
    descent⟩
  rw [← NormalEquations.toMatrix_damped]
  exact determinant

/-- Two residuals that depend on the sum of two parameters only: without damping
there would be no step. -/
theorem step_minimises_rank_one :
    (0 : ℚ) < 1 ∧
      0 < ((NormalEquations.ofJacobian (.ofFn ![![1, 1], ![1, 1]]) #v[1, 0]).step
        (1 : ℚ)).determinant :=
  ⟨one_pos, (step_minimises (.ofFn ![![1, 1], ![1, 1]]) #v[1, 0] 1 one_pos).2.1⟩

end OpticTune.Linear
