import Mathlib.Algebra.Group.Pi.Basic
import Mathlib.Data.List.OfFn
import OpticTune.Proofs.Scalar.Rational
import OpticTune.Solver.Landscape

namespace OpticTune.Solver

/-! What it is for a problem to follow a landscape. -/

variable {σ : Type} {m n : ℕ}

/-- The parameters a state stands for decide what every evaluation answers, and the
residuals read after one that did not fail. Applying a change adds it. -/
structure Problem.Follows (problem : Problem ℚ σ) (landscape : Landscape ℚ m n)
    (stands : (Fin n → ℚ) → σ → Prop) : Prop where
  apply : ∀ ⦃params state⦄, stands params state → ∀ delta : Fin n → ℚ,
    stands (params + delta) (problem.apply (List.ofFn delta) state).state
  evaluate : ∀ ⦃params state⦄, stands params state →
    stands params (problem.evaluate state).state ∧
      (problem.evaluate state).value = landscape.sos params
  residuals : ∀ ⦃params state⦄, stands params state → (landscape.sos params).isSome →
    let evaluated := (problem.evaluate state).state
    (problem.residuals evaluated).value = List.ofFn (landscape.residuals params) ∧
      (problem.residuals evaluated).state = evaluated

/-- What follows a landscape, with the places it was evaluated at so far. -/
structure Problem.Visits (problem : Problem ℚ σ) (landscape : Landscape ℚ m n)
    (stands : (Fin n → ℚ) → List (Fin n → ℚ) → σ → Prop) : Prop where
  apply : ∀ ⦃params visited state⦄, stands params visited state → ∀ delta : Fin n → ℚ,
    stands (params + delta) visited (problem.apply (List.ofFn delta) state).state
  evaluate : ∀ ⦃params visited state⦄, stands params visited state →
    stands params (visited ++ [params]) (problem.evaluate state).state ∧
      (problem.evaluate state).value = landscape.sos params
  residuals : ∀ ⦃params visited state⦄, stands params visited state →
    (landscape.sos params).isSome →
    let evaluated := (problem.evaluate state).state
    (problem.residuals evaluated).value = List.ofFn (landscape.residuals params) ∧
      (problem.residuals evaluated).state = evaluated

/-- Evaluated last at the parameters it stands for, without a failure. -/
structure Problem.Fresh (problem : Problem ℚ σ) (landscape : Landscape ℚ m n)
    (stands : (Fin n → ℚ) → σ → Prop) (params : Fin n → ℚ) (state : σ) : Prop where
  stands : stands params state
  evaluates : (landscape.sos params).isSome
  residuals : (problem.residuals state).value = List.ofFn (landscape.residuals params)
  still : (problem.residuals state).state = state

theorem hasFailed_eq (sos : Option ℚ) : hasFailed sos = sos.isNone := by
  cases sos <;> rfl

section Standing

variable (landscape : Landscape ℚ m n) (standing : Standing ℚ n)

theorem Landscape.value_evaluate :
    (landscape.problem.evaluate standing).value = landscape.sos standing.params := by
  simp only [problem, Act.value_bind, Act.get_apply]
  cases landscape.sos standing.params <;> rfl

theorem Landscape.state_evaluate :
    (landscape.problem.evaluate standing).state =
      if (landscape.sos standing.params).isSome then
        { standing with residuals := List.ofFn (landscape.residuals standing.params) }
      else standing := by
  simp only [problem, Act.state_bind, Act.get_apply]
  cases landscape.sos standing.params <;> rfl

end Standing

/-- A landscape's own problem follows it. -/
theorem Landscape.follows (landscape : Landscape ℚ m n) :
    landscape.problem.Follows landscape fun params standing => standing.params = params where
  apply := by
    rintro params state rfl delta
    funext j
    change state.params j + (List.ofFn delta).getD j 0 = _
    simp [List.getD]
  evaluate := by
    rintro params state rfl
    refine ⟨?_, landscape.value_evaluate state⟩
    rw [landscape.state_evaluate]
    split <;> rfl
  residuals := by
    rintro params state rfl evaluates
    rw [landscape.state_evaluate, if_pos evaluates]
    exact ⟨rfl, rfl⟩

section Nudged

variable {problem : Problem ℚ σ} {landscape : Landscape ℚ m n}

/-- A nudge takes the parameters where it says, and evaluates there. -/
theorem Problem.Visits.nudged {stands : (Fin n → ℚ) → List (Fin n → ℚ) → σ → Prop}
    (visits : problem.Visits landscape stands) (visited : List (Fin n → ℚ)) {params : Fin n → ℚ}
    {state : σ} (standing : stands params visited state) {delta target : Fin n → ℚ}
    (arrives : params + delta = target) :
    ∃ outcome, problem.nudge (List.ofFn delta) state = outcome ∧
      outcome.value = landscape.sos target ∧ stands target (visited ++ [target]) outcome.state ∧
      ((landscape.sos target).isSome → problem.Fresh landscape
        (fun place => stands place (visited ++ [target])) target outcome.state) := by
  subst arrives
  have applied := visits.apply standing delta
  obtain ⟨evaluated, value⟩ := visits.evaluate applied
  refine ⟨_, rfl, value, evaluated, fun evaluates => ?_⟩
  obtain ⟨residuals, still⟩ := visits.residuals applied evaluates
  exact ⟨evaluated, evaluates, residuals, still⟩

namespace Problem.Follows

variable {stands : (Fin n → ℚ) → σ → Prop} {params : Fin n → ℚ} {state : σ}

theorem visits (follows : problem.Follows landscape stands) :
    problem.Visits landscape fun params _ => stands params where
  apply _ _ _ standing := follows.apply standing
  evaluate _ _ _ standing := follows.evaluate standing
  residuals _ _ _ standing := follows.residuals standing

theorem fresh (follows : problem.Follows landscape stands) (standing : stands params state)
    (evaluates : (landscape.sos params).isSome) :
    problem.Fresh landscape stands params (problem.evaluate state).state where
  stands := (follows.evaluate standing).1
  evaluates := evaluates
  residuals := (follows.residuals standing evaluates).1
  still := (follows.residuals standing evaluates).2

theorem nudged (follows : problem.Follows landscape stands) (standing : stands params state)
    {delta target : Fin n → ℚ} (arrives : params + delta = target) :
    ∃ outcome, problem.nudge (List.ofFn delta) state = outcome ∧
      outcome.value = landscape.sos target ∧ stands target outcome.state ∧
      ((landscape.sos target).isSome → problem.Fresh landscape stands target outcome.state) :=
  follows.visits.nudged [] standing arrives

end Problem.Follows

end Nudged

end OpticTune.Solver
