import Mathlib.Data.Matrix.Mul
import OpticTune.Proofs.Solver.Course

namespace OpticTune.Solver

open Act (Returns)
open Linear (IsDampedStep)

/-! The order of parameters and of residuals is immaterial.

Two hosts that list the same parameters and the same residuals in different orders
measure their columns in different orders, fail at different ones, and pick other
pivots. None of this is seen by the search that an iteration comes down to: all it
asks of a landscape is the same for both, entry by entry.
-/

variable {m m' n n' : ℕ}

/-- The landscape with its parameters and residuals listed in another order: new
parameter `j` is old parameter `columns j`, and new residual `i` is old residual
`rows i`. -/
def Landscape.reordered (landscape : Landscape ℚ m n) (columns : Fin n' ≃ Fin n)
    (rows : Fin m' ≃ Fin m) : Landscape ℚ m' n' where
  sos place := landscape.sos (place ∘ columns.symm)
  residuals place i := landscape.residuals (place ∘ columns.symm) (rows i)

def Ending.reordered (ending : Ending n) (columns : Fin n' ≃ Fin n) : Ending n' :=
  { ending with params := ending.params ∘ columns }

theorem Config.Accepted.reordered {config : Config ℚ} (accepted : config.Accepted m n)
    (columns : Fin n' ≃ Fin n) (rows : Fin m' ≃ Fin m) : config.Accepted m' n' := by
  obtain rfl : n' = n := Fin.equiv_iff_eq.mp ⟨columns⟩
  obtain rfl : m' = m := Fin.equiv_iff_eq.mp ⟨rows⟩
  exact accepted

theorem single_comp (columns : Fin n' ≃ Fin n) (j : Fin n') (amount : ℚ) :
    Pi.single (columns j) amount ∘ columns = Pi.single j amount := by
  rw [Pi.single_comp_equiv, Equiv.symm_apply_apply]

section Step

open scoped Matrix

theorem isDampedStep_submatrix {jacobian : Matrix (Fin m) (Fin n) ℚ} {residuals : Fin m → ℚ}
    {damping : ℚ} {delta : Fin n → ℚ} (solves : IsDampedStep jacobian residuals damping delta)
    (columns : Fin n' ≃ Fin n) (rows : Fin m' ≃ Fin m) :
    IsDampedStep (jacobian.submatrix rows columns) (residuals ∘ rows) damping
      (delta ∘ columns) := by
  have curvature : (jacobian.submatrix rows columns)ᵀ * jacobian.submatrix rows columns +
      damping • 1 = (jacobianᵀ * jacobian + damping • 1).submatrix columns columns := by
    rw [Matrix.transpose_submatrix, Matrix.submatrix_mul_equiv, Matrix.submatrix_add,
      Matrix.submatrix_smul]
    simp
  unfold IsDampedStep at solves ⊢
  rw [curvature, Matrix.submatrix_mulVec_equiv, Function.comp_assoc, Equiv.self_comp_symm,
    Function.comp_id, solves, Matrix.transpose_submatrix, Matrix.submatrix_mulVec_equiv,
    Function.comp_assoc, Equiv.self_comp_symm, Function.comp_id]
  rfl

end Step

section Search

variable (landscape : Landscape ℚ m n) (columns : Fin n' ≃ Fin n) (rows : Fin m' ≃ Fin m)
  (params : Fin n → ℚ)

@[simp]
theorem Landscape.sos_reordered :
    (landscape.reordered columns rows).sos (params ∘ columns) = landscape.sos params := by
  simp [reordered, Function.comp_assoc]

@[simp]
theorem Landscape.residuals_reordered :
    (landscape.reordered columns rows).residuals (params ∘ columns) =
      landscape.residuals params ∘ rows := by
  funext i
  simp [reordered, Function.comp_assoc]

theorem Landscape.nonneg_reordered
    (nonneg : ∀ place sos, landscape.sos place = some sos → 0 ≤ sos) :
    ∀ place sos, (landscape.reordered columns rows).sos place = some sos → 0 ≤ sos :=
  fun place => nonneg (place ∘ columns.symm)

variable {steps : Vector ℚ n} {steps' : Vector ℚ n'}
  (stepsAre : ∀ j, steps'.get j = steps.get (columns j))

include stepsAre

theorem ahead_reordered (j : Fin n') :
    params ∘ columns + Pi.single j (steps'.get j) =
      (params + Pi.single (columns j) (steps.get (columns j))) ∘ columns := by
  rw [stepsAre, Pi.add_comp, single_comp]

theorem behind_reordered (j : Fin n') :
    params ∘ columns - Pi.single j (steps'.get j) =
      (params - Pi.single (columns j) (steps.get (columns j))) ∘ columns := by
  rw [stepsAre, Pi.sub_comp, single_comp]

theorem Landscape.measurable_reordered (j : Fin n') :
    (landscape.reordered columns rows).Measurable steps' (params ∘ columns) j ↔
      landscape.Measurable steps params (columns j) := by
  simp only [Measurable, ahead_reordered columns params stepsAre,
    behind_reordered columns params stepsAre, sos_reordered]

theorem Landscape.jacobian_reordered :
    (landscape.reordered columns rows).jacobian steps' (params ∘ columns) =
      (landscape.jacobian steps params).submatrix rows columns := by
  ext i j
  simp only [jacobian, Matrix.of_apply, Matrix.submatrix_apply]
  rw [ahead_reordered columns params stepsAre, behind_reordered columns params stepsAre,
    residuals_reordered, residuals_reordered, stepsAre]
  rfl

omit stepsAre

variable {landscape params} {config : Config ℚ} {state : State ℚ} {start : ℚ}
  {delta : ℕ → Fin n → ℚ} {last : ℕ} {ending : Ending n}

theorem settles_reordered (k : ℕ) :
    Settles (landscape.reordered columns rows) config (params ∘ columns) start
        (fun k => delta k ∘ columns) k ↔
      Settles landscape config params start delta k := by
  simp only [Settles, ← Pi.add_comp, Landscape.sos_reordered]

theorem Found.reordered (found : Found landscape config params state start delta last ending) :
    Found (landscape.reordered columns rows) config (params ∘ columns) state start
      (fun k => delta k ∘ columns) last (ending.reordered columns) := by
  have settling : {k | k < last ∧ Settles (landscape.reordered columns rows) config
      (params ∘ columns) start (fun k => delta k ∘ columns) k} =
      {k | k < last ∧ Settles landscape config params start delta k} := by
    simp only [settles_reordered]
  have evaluates (k : ℕ) : (landscape.reordered columns rows).sos
      (params ∘ columns + delta k ∘ columns) = landscape.sos (params + delta k) := by
    rw [← Pi.add_comp, Landscape.sos_reordered]
  cases found with
  | kept least evaluated falls =>
      exact .kept (settling ▸ least) ((evaluates _).trans evaluated) falls
  | negligible least evaluated rises =>
      exact .negligible (settling ▸ least) ((evaluates _).trans evaluated) rises
  | exhausted never =>
      refine .exhausted fun k room settled => never k room ?_
      exact (settles_reordered columns rows k).mp settled

include stepsAre

/-- What one search finds, the other finds in the new order. -/
theorem LineSearch.reordered
    (search : LineSearch landscape steps config params state ending) :
    LineSearch (landscape.reordered columns rows) steps' config (params ∘ columns) state
      (ending.reordered columns) := by
  cases search with
  | startFails failed => exact .startFails (by rw [Landscape.sos_reordered, failed])
  | @jacobianFails start j started failing =>
      have failing : ¬ (landscape.reordered columns rows).Measurable steps' (params ∘ columns)
          (columns.symm j) := by
        rwa [Landscape.measurable_reordered _ _ _ _ stepsAre, Equiv.apply_symm_apply]
      exact .jacobianFails (by rw [Landscape.sos_reordered, started]) failing
  | searched search found =>
      refine .searched ⟨?_, fun j => ?_, fun k => ?_, search.last⟩ (found.reordered columns rows)
      · rw [Landscape.sos_reordered, search.start]
      · exact (landscape.measurable_reordered columns rows params stepsAre j).mpr
          (search.measurable _)
      · rw [landscape.jacobian_reordered columns rows params stepsAre,
          Landscape.residuals_reordered]
        exact isDampedStep_submatrix (search.solves k) columns rows

end Search

section Calls

variable {σ τ : Type} {problem : Problem ℚ σ} {other : Problem ℚ τ} {landscape : Landscape ℚ m n}
  {columns : Fin n' ≃ Fin n} {rows : Fin m' ≃ Fin m} {stands : (Fin n → ℚ) → σ → Prop}
  {standsOther : (Fin n' → ℚ) → τ → Prop} {steps : Vector ℚ n} {steps' : Vector ℚ n'}
  {config : Config ℚ} {params : Fin n → ℚ} {state : State ℚ} {before : Measured ℚ σ m n}
  {beforeOther : Measured ℚ τ m' n'}
  (follows : problem.Follows landscape stands)
  (followsOther : other.Follows (landscape.reordered columns rows) standsOther)
  (nonneg : ∀ place sos, landscape.sos place = some sos → 0 ≤ sos)
  (stepsAre : ∀ j, steps'.get j = steps.get (columns j)) (accepted : config.Accepted m n)

include follows followsOther nonneg stepsAre accepted

/-- One call of each host: the same answer, and the parameters in the new order. -/
theorem iterate_reordered (positive : 0 < state.damping) (standing : stands params before.problem)
    (standingOther : standsOther (params ∘ columns) beforeOther.problem) :
    ∃ (ending : Ending n) (after : Measured ℚ σ m n) (afterOther : Measured ℚ τ m' n'),
      Returns (iterate (problem.host steps) config state) before ending.answer after ∧
      Returns (iterate (other.host steps') config state) beforeOther ending.answer afterOther ∧
      stands ending.params after.problem ∧
      standsOther (ending.params ∘ columns) afterOther.problem ∧ 0 < ending.state.damping := by
  obtain ⟨ending, after, returned, stands, search⟩ :=
    iterate_spec follows nonneg steps accepted positive standing
  obtain ⟨found, afterOther, returnedOther, standsOther, searched⟩ :=
    iterate_spec followsOther (landscape.nonneg_reordered columns rows nonneg) steps'
      (accepted.reordered columns rows) positive standingOther
  obtain rfl : found = ending.reordered columns :=
    searched.unique positive accepted.boost_pos (search.reordered columns rows stepsAre)
  exact ⟨ending, after, afterOther, returned, returnedOther, stands, standsOther,
    search.damping_pos accepted positive⟩

/-- Any number of calls. -/
theorem calls_reordered (positive : 0 < state.damping) (standing : stands params before.problem)
    (standingOther : standsOther (params ∘ columns) beforeOther.problem) (count : ℕ) :
    ∃ answers place after afterOther, answers.length = count ∧
      Calls (problem.host steps) config state before answers after ∧
      Calls (other.host steps') config state beforeOther answers afterOther ∧
      stands place after.problem ∧ standsOther (place ∘ columns) afterOther.problem := by
  induction count generalizing params state before beforeOther with
  | zero =>
      exact ⟨[], params, before, beforeOther, rfl, .nil, .nil, standing, standingOther⟩
  | succ count ih =>
      obtain ⟨ending, middle, middleOther, called, calledOther, standing, standingOther,
        positive⟩ :=
        iterate_reordered follows followsOther nonneg stepsAre accepted positive standing
          standingOther
      obtain ⟨answers, place, after, afterOther, counted, calls, callsOther, standing,
        standingOther⟩ := ih positive standing standingOther
      exact ⟨ending.answer :: answers, place, after, afterOther, congrArg Nat.succ counted,
        .cons called calls, .cons calledOther callsOther, standing, standingOther⟩

end Calls

end OpticTune.Solver
