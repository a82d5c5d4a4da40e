import Mathlib.Analysis.Real.Sqrt
import OpticTune.Proofs.Linear.LeastSquares
import OpticTune.Proofs.Linear.Minimiser

namespace OpticTune.Linear

open scoped Matrix

/-! Heavier damping is more cautious.

Each of two damped steps is the cheapest at its own damping. Comparing either with the
other, the heavier damped one is no longer than the lighter damped one, and what it
foretells is no better. Both are the same step only where there is no slope.
-/

variable {m n : ℕ}

/-- The Euclidean length of a vector. -/
noncomputable def magnitude (vector : Fin n → ℚ) : ℝ :=
  √((vector ⬝ᵥ vector : ℚ) : ℝ)

section Magnitude

variable {left : Fin m → ℚ} {right : Fin n → ℚ}

theorem magnitude_le_iff : magnitude left ≤ magnitude right ↔ left ⬝ᵥ left ≤ right ⬝ᵥ right := by
  have nonneg := Rat.cast_nonneg (K := ℝ).mpr (dotProduct_self_nonneg right)
  rw [magnitude, magnitude, Real.sqrt_le_sqrt_iff nonneg, Rat.cast_le]

theorem magnitude_lt_iff : magnitude left < magnitude right ↔ left ⬝ᵥ left < right ⬝ᵥ right := by
  rw [← not_le, magnitude_le_iff, not_le]

end Magnitude

section Steps

variable {jacobian : Matrix (Fin m) (Fin n) ℚ} {residuals : Fin m → ℚ}
  {damping lighter heavier : ℚ} {delta light heavy : Fin n → ℚ}

/-- The residuals foretold for a step are those of a linear problem. -/
theorem misfit_eq (delta : Fin n → ℚ) :
    misfit jacobian (-residuals) (0 + delta) =
      (residuals + jacobian *ᵥ delta) ⬝ᵥ (residuals + jacobian *ᵥ delta) := by
  rw [misfit, zero_add, sub_neg_eq_add, add_comm]

theorem isDampedStep_iff :
    IsDampedStep jacobian residuals damping delta ↔
      IsDampedStep jacobian (jacobian *ᵥ 0 - -residuals) damping delta := by
  rw [Matrix.mulVec_zero, zero_sub, neg_neg]

theorem gradient_eq : gradient jacobian (-residuals) 0 = jacobianᵀ *ᵥ residuals := by
  rw [gradient, Matrix.mulVec_zero, zero_sub, neg_neg]

theorem IsDampedStep.eq_zero_iff (positive : 0 < damping)
    (solves : IsDampedStep jacobian residuals damping delta) :
    delta = 0 ↔ jacobianᵀ *ᵥ residuals = 0 := by
  rw [← gradient_eq]
  exact step_eq_zero_iff positive (isDampedStep_iff.mp solves)

/-- The residuals are foretold to fall, unless there is no slope. -/
theorem IsDampedStep.foretells (positive : 0 < damping)
    (solves : IsDampedStep jacobian residuals damping delta) :
    (residuals + jacobian *ᵥ delta) ⬝ᵥ (residuals + jacobian *ᵥ delta) ≤
        residuals ⬝ᵥ residuals ∧
      ((residuals + jacobian *ᵥ delta) ⬝ᵥ (residuals + jacobian *ᵥ delta) =
        residuals ⬝ᵥ residuals → jacobianᵀ *ᵥ residuals = 0) := by
  have start : residuals ⬝ᵥ residuals = misfit jacobian (-residuals) 0 := by
    rw [misfit, Matrix.mulVec_zero, zero_sub, neg_neg]
  have step := isDampedStep_iff.mp solves
  rw [← misfit_eq, start, ← gradient_eq]
  exact ⟨misfit_step_le positive step, (misfit_step_eq_iff positive step).mp⟩

/-- A step that solves the equations for two dampings stays where it is. -/
theorem IsDampedStep.eq_zero_of_both (different : lighter ≠ heavier)
    (light : IsDampedStep jacobian residuals lighter delta)
    (heavy : IsDampedStep jacobian residuals heavier delta) : delta = 0 := by
  have both := light.trans heavy.symm
  rw [Matrix.add_mulVec, Matrix.add_mulVec, Matrix.smul_mulVec, Matrix.smul_mulVec,
    Matrix.one_mulVec, add_right_inj] at both
  by_contra moving
  exact different (smul_left_injective ℚ moving both)

variable (positive : 0 < lighter) (more : lighter < heavier)
  (solvesLight : IsDampedStep jacobian residuals lighter light)
  (solvesHeavy : IsDampedStep jacobian residuals heavier heavy)

include positive more solvesLight solvesHeavy

/-- Each step is compared with the other at its own damping. -/
theorem steps_compared :
    heavy ⬝ᵥ heavy ≤ light ⬝ᵥ light ∧
      (residuals + jacobian *ᵥ light) ⬝ᵥ (residuals + jacobian *ᵥ light) +
          lighter * (light ⬝ᵥ light - heavy ⬝ᵥ heavy) ≤
        (residuals + jacobian *ᵥ heavy) ⬝ᵥ (residuals + jacobian *ᵥ heavy) := by
  have cheapestLight := (solvesLight.minimises_iff positive light).mpr rfl heavy
  have cheapestHeavy := (solvesHeavy.minimises_iff (positive.trans more) heavy).mpr rfl light
  simp only [dampedCost] at cheapestLight cheapestHeavy
  have exchanged : (heavier - lighter) * (heavy ⬝ᵥ heavy) ≤
      (heavier - lighter) * (light ⬝ᵥ light) := by
    linarith
  exact ⟨le_of_mul_le_mul_left exchanged (sub_pos.mpr more), by linarith⟩

theorem heavier_shorter :
    heavy ⬝ᵥ heavy ≤ light ⬝ᵥ light ∧
      (heavy ⬝ᵥ heavy = light ⬝ᵥ light → jacobianᵀ *ᵥ residuals = 0) := by
  obtain ⟨shorter, foretold⟩ := steps_compared positive more solvesLight solvesHeavy
  refine ⟨shorter, fun same => ?_⟩
  -- of equal length both cost the same at the heavier damping, where one is the cheapest
  have cheapest : ∀ other, dampedCost jacobian residuals heavier light ≤
      dampedCost jacobian residuals heavier other := by
    intro other
    have least := (solvesHeavy.minimises_iff (positive.trans more) heavy).mpr rfl other
    refine le_trans ?_ least
    rw [dampedCost, dampedCost, same]
    rw [same, sub_self, mul_zero, add_zero] at foretold
    exact add_le_add_left foretold _
  have equal := (solvesHeavy.minimises_iff (positive.trans more) light).mp cheapest
  rw [equal] at solvesLight
  rw [← solvesHeavy.eq_zero_iff (positive.trans more)]
  exact solvesLight.eq_zero_of_both more.ne solvesHeavy

theorem heavier_foretells :
    (residuals + jacobian *ᵥ light) ⬝ᵥ (residuals + jacobian *ᵥ light) ≤
      (residuals + jacobian *ᵥ heavy) ⬝ᵥ (residuals + jacobian *ᵥ heavy) := by
  obtain ⟨shorter, foretold⟩ := steps_compared positive more solvesLight solvesHeavy
  have price := mul_nonneg positive.le (sub_nonneg.mpr shorter)
  linarith

end Steps

/-- Of two steps for the same residuals, the heavier damped one is the more cautious. -/
structure MoreCautious (jacobian : Matrix (Fin m) (Fin n) ℚ) (residuals : Fin m → ℚ)
    (light heavy : Fin n → ℚ) : Prop where
  shorter : magnitude heavy ≤ magnitude light
  foretold : magnitude (residuals + jacobian *ᵥ light) ≤ magnitude (residuals + jacobian *ᵥ heavy)
  falls : magnitude (residuals + jacobian *ᵥ heavy) ≤ magnitude residuals
  strict : jacobianᵀ *ᵥ residuals ≠ 0 → magnitude heavy < magnitude light ∧
    magnitude (residuals + jacobian *ᵥ heavy) < magnitude residuals
  flat : jacobianᵀ *ᵥ residuals = 0 → light = 0 ∧ heavy = 0

theorem moreCautious_step (jacobian : Table ℚ m n) (residuals : Vector ℚ m) {lighter heavier : ℚ}
    (positive : 0 < lighter) (more : lighter < heavier) :
    MoreCautious jacobian.toMatrix residuals.get
      ((NormalEquations.ofJacobian jacobian residuals).step lighter).delta.get
      ((NormalEquations.ofJacobian jacobian residuals).step heavier).delta.get := by
  have heavyPositive := positive.trans more
  obtain ⟨_, light⟩ := NormalEquations.step_ofJacobian jacobian residuals positive
  obtain ⟨_, heavy⟩ := NormalEquations.step_ofJacobian jacobian residuals heavyPositive
  obtain ⟨shorter, sameLength⟩ := heavier_shorter positive more light heavy
  obtain ⟨falls, stays⟩ := heavy.foretells heavyPositive
  refine ⟨magnitude_le_iff.mpr shorter,
    magnitude_le_iff.mpr (heavier_foretells positive more light heavy),
    magnitude_le_iff.mpr falls, fun slope => ⟨?_, ?_⟩, fun flat => ⟨?_, ?_⟩⟩
  · exact magnitude_lt_iff.mpr (lt_of_le_of_ne shorter fun same => slope (sameLength same))
  · exact magnitude_lt_iff.mpr (lt_of_le_of_ne falls fun same => slope (stays same))
  · exact (light.eq_zero_iff positive).mpr flat
  · exact (heavy.eq_zero_iff heavyPositive).mpr flat

end OpticTune.Linear
