import OpticTune.Proofs.Scalar.Extended
import OpticTune.Proofs.Solver.Iteration
import OpticTune.Proofs.Stops

namespace OpticTune.Solver

open Act (Returns Stops)
open Linear (NormalEquations)
open Scalar (grown)

/-! How the damping ends an iteration, for any host and arithmetic.

Every trial but the last multiplies the damping by the boost. So an iteration
returns if some number of multiplications takes the damping to its ceiling, and
if none does, a host that fails every trial keeps it going for ever.
-/

variable {α σ : Type} [Scalar α] {host : Host α σ} {config : Config α} {before after : σ}

section Trials

variable {n : ℕ} {equations : NormalEquations α n} {outer inner limit : ℕ} {start damping : α}

theorem exists_judge (scale : Scalar.isZero (1 + start) = false) (tolerance : α) (sos : Option α) :
    ∃ verdict, judge tolerance sos start = .ok verdict := by
  rw [judge_eq, relativeRise, scale]
  exact ⟨_, rfl⟩

theorem exists_returns_attempt (scale : Scalar.isZero (1 + start) = false) (host : Host α σ)
    (config : Config α) (equations : NormalEquations α n) (outer inner : ℕ) (damping : α)
    (before : σ) :
    ∃ ending after, Returns (attempt host config equations outer start inner damping) before ending
      after := by
  simp only [returns_attempt]
  split
  · obtain ⟨verdict, judged⟩ := exists_judge scale config.tolerance
      (host.nudge (equations.step damping).delta.toList before).value
    cases verdict with
    | down | level | negligible | rejected => exact ⟨_, _, _, judged, rfl, rfl⟩
  · exact ⟨_, _, rfl, rfl⟩

/-- A trial that ends the iteration does not end it badly. -/
theorem damping_of_attempt {final : State α × Status}
    (returned : Returns (attempt host config equations outer start inner damping) before
      (some final) after) :
    final.2 ≠ .bad ∧ (final.1.damping = damping ∨ final.1.damping = damping * config.shrink) := by
  rw [returns_attempt] at returned
  split at returned
  · obtain ⟨verdict, -, ends⟩ := returned
    cases verdict with
    | down | level =>
        cases Option.some.inj ends.1
        exact ⟨nofun, .inr rfl⟩
    | negligible =>
        cases Option.some.inj ends.1
        exact ⟨nofun, .inl rfl⟩
    | rejected => exact nomatch ends.1
  · exact nomatch returned.1

theorem returns_attempt_of_rejected
    (rejects : ∀ delta here, judge config.tolerance (host.nudge delta here).value start =
      .ok .rejected) (equations : NormalEquations α n) (outer inner : ℕ) (damping : α) (before : σ) :
    ∃ after, Returns (attempt host config equations outer start inner damping) before none after := by
  simp only [returns_attempt]
  split
  · exact ⟨_, .rejected, rejects _ _, rfl, rfl⟩
  · exact ⟨before, trivial, rfl⟩

theorem exists_returns_trials (scale : Scalar.isZero (1 + start) = false) (host : Host α σ)
    (equations : NormalEquations α n) (outer inner : ℕ) (before : σ) (reaches : ∃ count < limit,
      Scalar.le config.maxDamping (grown damping config.boost (count + 1)) = true) :
    ∃ ending after, Returns (trials host config equations outer start limit inner damping) before
      ending after := by
  induction limit generalizing inner damping before with
  | zero =>
      obtain ⟨count, none, -⟩ := reaches
      exact absurd none (Nat.not_lt_zero count)
  | succ limit ih =>
      obtain ⟨found, middle, attempted⟩ :=
        exists_returns_attempt scale host config equations outer (inner + 1) damping before
      simp only [returns_trials_succ]
      cases found with
      | some final => exact ⟨final, middle, some final, middle, attempted, rfl, rfl⟩
      | none =>
          cases exhausted : Scalar.le config.maxDamping (damping * config.boost) with
          | true => exact ⟨_, middle, none, middle, attempted, rfl, rfl⟩
          | false =>
              have later : ∃ count < limit, Scalar.le config.maxDamping
                  (grown (damping * config.boost) config.boost (count + 1)) = true := by
                obtain ⟨count, room, ceiling⟩ := reaches
                cases count with
                | zero => exact absurd (exhausted.symm.trans ceiling) Bool.false_ne_true
                | succ count => exact ⟨count, Nat.lt_of_succ_lt_succ room, ceiling⟩
              obtain ⟨ending, after, returned⟩ := ih (inner + 1) middle later
              exact ⟨ending, after, none, middle, attempted, returned⟩

/-- What is left of the damping when an iteration ends. -/
structure Spent (config : Config α) (damping : α) (ending : State α × Status) : Prop where
  damping : ∃ count, ending.1.damping = grown damping config.boost count ∨
    ending.1.damping = grown damping config.boost count * config.shrink
  exhausted : ending.2 = .bad → Scalar.le config.maxDamping ending.1.damping = true

theorem spent_of_trials {ending : State α × Status}
    (returned : Returns (trials host config equations outer start limit inner damping) before ending
      after) : Spent config damping ending := by
  induction limit generalizing inner damping before with
  | zero => exact absurd returned not_returns_trials_zero
  | succ limit ih =>
      obtain ⟨found, middle, attempted, rest⟩ := returns_trials_succ.mp returned
      cases found with
      | some final =>
          obtain ⟨rfl, rfl⟩ := rest
          obtain ⟨good, kept⟩ := damping_of_attempt attempted
          exact ⟨⟨0, kept⟩, fun bad => absurd bad good⟩
      | none =>
          simp only at rest
          split at rest
          · rename_i exhausted
            obtain ⟨rfl, rfl⟩ := rest
            exact ⟨⟨1, .inl rfl⟩, fun _ => exhausted⟩
          · obtain ⟨⟨count, grown⟩, exhausted⟩ := ih rest
            exact ⟨⟨count + 1, grown⟩, exhausted⟩

theorem stops_trials
    (rejects : ∀ inner damping before, ∃ after,
      Returns (attempt host config equations outer start inner damping) before none after)
    (never : ∀ count, Scalar.le config.maxDamping (grown damping config.boost (count + 1)) = false) :
    Stops (trials host config equations outer start limit inner damping) before .endless := by
  induction limit generalizing inner damping before with
  | zero => exact Act.stops_throw.mpr rfl
  | succ limit ih =>
      obtain ⟨middle, undone⟩ := rejects (inner + 1) damping before
      have below : Scalar.le config.maxDamping (damping * config.boost) = false := never 0
      rw [trials, undone.stops_bind]
      simp only [below, Bool.false_eq_true, ↓reduceIte]
      exact ih fun count => never (count + 1)

end Trials

/-- From here an iteration returns, unless its trials do not. -/
def Host.Ready (host : Host α σ) (config : Config α) (before : σ) : Prop :=
  ∀ start, (host.evaluate before).value = some start → Scalar.isFinite start = true →
    Scalar.isZero (1 + start) = false ∧
      ∃ built middle, Returns host.buildJacobian (host.evaluate before).state built middle ∧
        (built = true → ∃ data gathered,
          Returns (host.gather config.pointCount config.paramCount) middle data gathered)

/-- From here an iteration gets to its trials, and all of them are rejected. -/
def Host.Rejects (host : Host α σ) (config : Config α) (before : σ) : Prop :=
  ∃ start, (host.evaluate before).value = some start ∧ Scalar.isFinite start = true ∧
    (∀ delta here,
      judge config.tolerance (host.nudge delta here).value start = .ok .rejected) ∧
    ∃ middle, Returns host.buildJacobian (host.evaluate before).state true middle ∧
      ∃ data gathered,
        Returns (host.gather config.pointCount config.paramCount) middle data gathered

section Iteration

variable {state : State α} {limit : ℕ} {ending : State α × Status}

theorem Host.Ready.exists_returns (ready : host.Ready config before)
    (reaches : ∃ count < limit,
      Scalar.le config.maxDamping (grown state.damping config.boost (count + 1)) = true) :
    ∃ ending after, Returns (iterateWithin host config limit state) before ending after := by
  simp only [returns_iterateWithin]
  cases failed : hasFailed (host.evaluate before).value with
  | true => exact ⟨_, _, rfl, rfl⟩
  | false =>
      simp only [Bool.false_eq_true, ↓reduceIte]
      obtain ⟨start, evaluated, finite⟩ := not_hasFailed failed
      obtain ⟨scale, built, middle, building, gathers⟩ := ready start evaluated finite
      cases built with
      | false => exact ⟨_, _, start, evaluated, false, middle, building, rfl, rfl⟩
      | true =>
          obtain ⟨⟨jacobian, residuals⟩, gathered, fetched⟩ := gathers rfl
          obtain ⟨ending, after, tried⟩ := exists_returns_trials scale host
            (NormalEquations.ofJacobian jacobian residuals) (state.outer + 1) 0 gathered reaches
          exact ⟨ending, after, start, evaluated, true, middle, building, jacobian, residuals,
            gathered, fetched, tried⟩

/-- An iteration without a trial leaves the damping as it is. -/
theorem spent_of_iterateWithin
    (returned : Returns (iterateWithin host config limit state) before ending after) :
    ending = ({ state with outer := state.outer + 1, inner := 0, sos := ending.1.sos }, .bad) ∨
      Spent config state.damping ending := by
  rw [returns_iterateWithin] at returned
  simp only at returned
  split at returned
  · obtain ⟨rfl, -⟩ := returned
    exact .inl rfl
  · obtain ⟨start, -, built, middle, -, rest⟩ := returned
    split at rest
    · obtain ⟨jacobian, residuals, gathered, -, tried⟩ := rest
      exact .inr (spent_of_trials tried)
    · obtain ⟨rfl, -⟩ := rest
      exact .inl rfl

/-- However long the trials are kept up, they come to no end. -/
theorem Host.Rejects.stops (rejects : host.Rejects config before)
    (never : ∀ count,
      Scalar.le config.maxDamping (grown state.damping config.boost (count + 1)) = false) :
    Stops (iterateWithin host config limit state) before .endless := by
  obtain ⟨start, evaluated, finite, rejected, middle, building, ⟨jacobian, residuals⟩, gathered,
    fetched⟩ := rejects
  have first : Returns (liftM host.evaluate : ExceptT Fault (Act α σ) _) before (some start)
      (host.evaluate before).state :=
    Act.returns_liftM.mpr ⟨evaluated, rfl⟩
  have passes : hasFailed (some start) = false := by rw [hasFailed, finite, Bool.not_true]
  unfold iterateWithin
  rw [first.stops_bind]
  simp only [passes, Bool.false_eq_true, ↓reduceIte]
  rw [building.stops_bind]
  simp only [↓reduceIte]
  rw [fetched.stops_bind]
  exact stops_trials (returns_attempt_of_rejected rejected _ _) never

end Iteration

end OpticTune.Solver
