import OpticTune.Proofs.Linear.DampedStep

namespace OpticTune.Linear

open scoped Matrix

/-! What a damped step does to a linear least-squares problem, whatever its rank. -/

variable {m n : ℕ}

section Misfit

variable (design : Matrix (Fin m) (Fin n) ℚ) (target : Fin m → ℚ) (params : Fin n → ℚ)

/-- The squared norm of the residuals. -/
def misfit : ℚ :=
  (design *ᵥ params - target) ⬝ᵥ (design *ᵥ params - target)

/-- Half the gradient of the misfit. -/
def gradient : Fin n → ℚ :=
  designᵀ *ᵥ (design *ᵥ params - target)

def Minimises (best : Fin n → ℚ) : Prop :=
  ∀ params, misfit design target best ≤ misfit design target params

/-- The square of the distance. -/
def distance (params best : Fin n → ℚ) : ℚ :=
  (params - best) ⬝ᵥ (params - best)

theorem misfit_nonneg : 0 ≤ misfit design target params :=
  dotProduct_self_nonneg _

theorem misfit_add (delta : Fin n → ℚ) :
    misfit design target (params + delta) = misfit design target params +
      2 * (delta ⬝ᵥ gradient design target params) + (design *ᵥ delta) ⬝ᵥ (design *ᵥ delta) := by
  have slope : delta ⬝ᵥ gradient design target params =
      (design *ᵥ delta) ⬝ᵥ (design *ᵥ params - target) := by
    rw [gradient, Matrix.dotProduct_mulVec, Matrix.vecMul_transpose]
  have split : design *ᵥ (params + delta) - target =
      (design *ᵥ params - target) + design *ᵥ delta := by
    rw [Matrix.mulVec_add]
    abel
  rw [slope, misfit, misfit, split, add_dotProduct, dotProduct_add, dotProduct_add,
    dotProduct_comm (design *ᵥ params - target) (design *ᵥ delta)]
  ring

end Misfit

section Step

variable {design : Matrix (Fin m) (Fin n) ℚ} {target : Fin m → ℚ} {damping : ℚ}
  {params delta best : Fin n → ℚ}

theorem exists_isDampedStep (positive : 0 < damping) (residuals : Fin m → ℚ) :
    ∃ delta, IsDampedStep design residuals damping delta := by
  have unit : IsUnit (designᵀ * design + damping • 1).det :=
    isUnit_iff_ne_zero.mpr (det_damped_ne_zero design positive)
  refine ⟨(designᵀ * design + damping • 1)⁻¹ *ᵥ -(designᵀ *ᵥ residuals), ?_⟩
  rw [IsDampedStep, Matrix.mulVec_mulVec, Matrix.mul_nonsing_inv _ unit, Matrix.one_mulVec]

/-- The step goes down the gradient as far as its own length costs. -/
theorem misfit_step
    (step : IsDampedStep design (design *ᵥ params - target) damping delta) :
    misfit design target (params + delta) = misfit design target params -
      ((design *ᵥ delta) ⬝ᵥ (design *ᵥ delta) + 2 * damping * (delta ⬝ᵥ delta)) := by
  have energy : delta ⬝ᵥ (designᵀ * design + damping • 1) *ᵥ delta = _ :=
    dotProduct_damped design delta
  rw [step, dotProduct_neg] at energy
  rw [misfit_add, gradient]
  linarith

theorem misfit_step_le (positive : 0 < damping)
    (step : IsDampedStep design (design *ᵥ params - target) damping delta) :
    misfit design target (params + delta) ≤ misfit design target params := by
  have image := dotProduct_self_nonneg (design *ᵥ delta)
  have square := mul_nonneg positive.le (dotProduct_self_nonneg delta)
  rw [misfit_step step]
  linarith

theorem step_eq_zero_iff (positive : 0 < damping)
    (step : IsDampedStep design (design *ᵥ params - target) damping delta) :
    delta = 0 ↔ gradient design target params = 0 := by
  constructor
  · rintro rfl
    rw [IsDampedStep, Matrix.mulVec_zero] at step
    exact neg_eq_zero.mp step.symm
  · intro flat
    rw [gradient] at flat
    rw [IsDampedStep, flat, neg_zero] at step
    exact eq_zero_of_damped design positive step

theorem misfit_step_eq_iff (positive : 0 < damping)
    (step : IsDampedStep design (design *ᵥ params - target) damping delta) :
    misfit design target (params + delta) = misfit design target params ↔
      gradient design target params = 0 := by
  rw [← step_eq_zero_iff positive step]
  constructor
  · intro same
    have image := dotProduct_self_nonneg (design *ᵥ delta)
    have square := dotProduct_self_nonneg delta
    rw [misfit_step step] at same
    have vanishing : delta ⬝ᵥ delta = 0 := by nlinarith
    exact dotProduct_self_eq_zero.mp vanishing
  · rintro rfl
    rw [add_zero]

/-- At a minimiser no step is left to take. -/
theorem Minimises.gradient_eq_zero (minimises : Minimises design target best) :
    gradient design target best = 0 := by
  obtain ⟨delta, step⟩ := exists_isDampedStep one_pos (design *ᵥ best - target)
  exact (misfit_step_eq_iff one_pos step).mp
    (le_antisymm (misfit_step_le one_pos step) (minimises (best + delta)))

/-- What is left of the way to a minimiser. -/
theorem step_toward (minimises : Minimises design target best)
    (step : IsDampedStep design (design *ᵥ params - target) damping delta) :
    (designᵀ * design + damping • 1) *ᵥ (params + delta - best) = damping • (params - best) := by
  have normal : designᵀ *ᵥ target = designᵀ *ᵥ (design *ᵥ best) := by
    have flat := minimises.gradient_eq_zero
    rw [gradient, Matrix.mulVec_sub, sub_eq_zero] at flat
    exact flat.symm
  have whole : params + delta - best = (params - best) + delta := by abel
  rw [whole, Matrix.mulVec_add, step, Matrix.add_mulVec, Matrix.smul_mulVec, Matrix.one_mulVec,
    ← Matrix.mulVec_mulVec, Matrix.mulVec_sub, Matrix.mulVec_sub, Matrix.mulVec_sub, normal]
  abel

theorem distance_step_le (positive : 0 < damping) (minimises : Minimises design target best)
    (step : IsDampedStep design (design *ᵥ params - target) damping delta) :
    distance (params + delta) best ≤ distance params best := by
  obtain ⟨before, beforeIs⟩ : ∃ before, params - best = before := ⟨_, rfl⟩
  obtain ⟨after, afterIs⟩ : ∃ after, params + delta - best = after := ⟨_, rfl⟩
  have toward := step_toward minimises step
  have energy : after ⬝ᵥ (designᵀ * design + damping • 1) *ᵥ after = _ :=
    dotProduct_damped design after
  have image := dotProduct_self_nonneg (design *ᵥ after)
  have gap := dotProduct_self_nonneg (before - after)
  rw [beforeIs, afterIs] at toward
  rw [toward, dotProduct_smul, smul_eq_mul] at energy
  rw [sub_dotProduct, dotProduct_sub, dotProduct_sub, dotProduct_comm before after] at gap
  rw [distance, distance, beforeIs, afterIs]
  have along : after ⬝ᵥ after ≤ after ⬝ᵥ before := by nlinarith
  linarith

end Step

end OpticTune.Linear
