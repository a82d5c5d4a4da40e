import OpticTune.Proofs.Returns
import OpticTune.Proofs.Solver.Trial
import OpticTune.Solver.Iteration

namespace OpticTune.Solver

open Act (Returns)
open Linear (NormalEquations)

/-! What an iteration, its trials and one trial do, for any host and arithmetic.

Each rule says all that can happen, guards included; nothing below it is unfolded
again.
-/

variable {α σ : Type} [Scalar α] {host : Host α σ} {config : Config α} {before after : σ}

section Trials

variable {n : Nat} {equations : NormalEquations α n} {outer inner limit : Nat}
  {start damping : α}

/-- How a trial ends that was judged: what it answers, and what it leaves if
`moved` is left by the step and `restored` by taking it back. -/
def Verdict.Ends (config : Config α) (outer inner : Nat) (start damping : α) (sos : Option α)
    (moved restored : σ) : Verdict → Option (State α × Status) → σ → Prop
  | .down, ending, after =>
      ending = some ({ damping := damping * config.shrink, outer, inner, sos }, .down) ∧
        after = moved
  | .level, ending, after =>
      ending = some ({ damping := damping * config.shrink, outer, inner, sos }, .level) ∧
        after = moved
  | .negligible, ending, after =>
      ending = some ({ damping, outer, inner, sos := some start }, .level) ∧ after = restored
  | .rejected, ending, after => ending = none ∧ after = restored

theorem returns_attempt {ending : Option (State α × Status)} :
    Returns (attempt host config equations outer start inner damping) before ending after ↔
      if (equations.step damping).isUsable then
        let delta := (equations.step damping).delta.toList
        let trial := host.nudge delta before
        ∃ verdict, judge config.tolerance trial.value start = .ok verdict ∧
          verdict.Ends config outer inner start damping trial.value trial.state
            (host.nudge (delta.map Neg.neg) trial.state).state ending after
      else ending = none ∧ after = before := by
  unfold attempt
  cases usable : (equations.step damping).isUsable with
  | false =>
      simp only [usable, Bool.not_false, ↓reduceIte, Act.returns_note_bind, Act.returns_pure,
        Bool.false_eq_true]
  | true =>
      simp only [usable, Bool.not_true, Bool.false_eq_true, ↓reduceIte, Act.returns_liftM_bind,
        Act.returns_ofExcept_bind, Act.returns_note_bind]
      refine exists_congr fun verdict => and_congr_right fun _ => ?_
      cases verdict with
      | down | level => exact Act.returns_pure
      | negligible | rejected => exact Act.returns_discard_bind.trans Act.returns_pure

theorem not_returns_trials_zero {ending : State α × Status} :
    ¬ Returns (trials host config equations outer start 0 inner damping) before ending after :=
  Act.returns_throw

theorem returns_trials_succ {ending : State α × Status} :
    Returns (trials host config equations outer start (limit + 1) inner damping) before ending
        after ↔
      ∃ found middle,
        Returns (attempt host config equations outer start (inner + 1) damping) before found
          middle ∧
        match found with
        | some final => ending = final ∧ after = middle
        | none =>
            if Scalar.le config.maxDamping (damping * config.boost) then
              ending = ({ damping := damping * config.boost, outer, inner := inner + 1,
                          sos := some start }, .bad) ∧ after = middle
            else
              Returns (trials host config equations outer start limit (inner + 1)
                (damping * config.boost)) middle ending after := by
  rw [trials, Act.returns_bind]
  refine exists_congr fun found => exists_congr fun middle => and_congr_right fun _ => ?_
  cases found with
  | some final => exact Act.returns_pure
  | none =>
      simp only
      split
      · exact Act.returns_note_bind.trans Act.returns_pure
      · rfl

theorem outer_of_returns_attempt {answer : State α × Status}
    (returned : Returns (attempt host config equations outer start inner damping) before
      (some answer) after) : answer.1.outer = outer ∧ answer.2 ≠ .max := by
  have found := returns_attempt.mp returned
  split at found
  · obtain ⟨verdict, _, ends⟩ := found
    cases verdict with
    | down | level | negligible =>
        cases ends.1
        exact ⟨rfl, nofun⟩
    | rejected => exact nomatch ends.1
  · exact nomatch found.1

theorem outer_of_returns_trials {ending : State α × Status}
    (returned : Returns (trials host config equations outer start limit inner damping) before
      ending after) : ending.1.outer = outer ∧ ending.2 ≠ .max := by
  induction limit generalizing inner damping before with
  | zero => exact absurd returned not_returns_trials_zero
  | succ limit ih =>
      obtain ⟨found, middle, attempted, rest⟩ := returns_trials_succ.mp returned
      cases found with
      | some final =>
          obtain ⟨rfl, _⟩ := rest
          exact outer_of_returns_attempt attempted
      | none =>
          simp only at rest
          split at rest
          · obtain ⟨rfl, _⟩ := rest
            exact ⟨rfl, nofun⟩
          · exact ih rest

end Trials

theorem returns_iterateWithin {state : State α} {limit : Nat} {ending : State α × Status} :
    Returns (iterateWithin host config limit state) before ending after ↔
      let evaluated := host.evaluate before
      if hasFailed evaluated.value then
        ending = ({ state with outer := state.outer + 1, inner := 0 }, .bad) ∧
          after = evaluated.state
      else ∃ start, evaluated.value = some start ∧ ∃ built middle,
        Returns host.buildJacobian evaluated.state built middle ∧
        if built then
          ∃ jacobian residuals gathered,
            Returns (host.gather config.pointCount config.paramCount) middle
              (jacobian, residuals) gathered ∧
            Returns (trials host config (NormalEquations.ofJacobian jacobian residuals)
              (state.outer + 1) start limit 0 state.damping) gathered ending after
        else
          ending = ({ state with outer := state.outer + 1, inner := 0, sos := some start }, .bad) ∧
            after = middle := by
  unfold iterateWithin iterateWithin.failed
  simp only [Act.returns_liftM_bind]
  cases (host.evaluate before).value with
  | none => simp only [hasFailed, ↓reduceIte, Act.returns_note_bind, Act.returns_pure]
  | some start =>
      cases hasFailed (some start) with
      | true => simp only [↓reduceIte, Act.returns_note_bind, Act.returns_pure]
      | false =>
          simp only [Bool.false_eq_true, ↓reduceIte, Option.some.injEq, exists_eq_left',
            Act.returns_bind]
          refine exists_congr fun built => exists_congr fun middle => and_congr_right fun _ => ?_
          cases built with
          | true => simp only [↓reduceIte, Act.returns_bind, Prod.exists]
          | false => simp only [Bool.false_eq_true, ↓reduceIte, Act.returns_note_bind,
              Act.returns_pure]

/-- Every iteration is counted once, and none answers that the cap is reached. -/
theorem outer_of_returns_iterate {state : State α} {ending : State α × Status}
    (returned : Returns (iterate host config state) before ending after) :
    ending.1.outer = state.outer + 1 ∧ ending.2 ≠ .max := by
  have found := returns_iterateWithin.mp returned
  simp only at found
  split at found
  · obtain ⟨rfl, _⟩ := found
    exact ⟨rfl, nofun⟩
  · obtain ⟨start, _, built, middle, _, rest⟩ := found
    split at rest
    · obtain ⟨jacobian, residuals, gathered, _, tried⟩ := rest
      exact outer_of_returns_trials tried
    · obtain ⟨rfl, _⟩ := rest
      exact ⟨rfl, nofun⟩

end OpticTune.Solver
