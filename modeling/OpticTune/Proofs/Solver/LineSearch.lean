import Mathlib.Order.Bounds.Basic
import OpticTune.Proofs.Linear.DampedStep
import OpticTune.Proofs.Solver.Config
import OpticTune.Proofs.Solver.FiniteDifference
import OpticTune.Proofs.Solver.Iteration

namespace OpticTune.Solver

open Act (Returns)
open Linear (IsDampedStep NormalEquations)

/-! An iteration on a landscape is a search along the damping.

The search knows nothing of calls and moves: it looks for the least number of
boosts whose damped step leads somewhere that can be evaluated and does not rise
too far, and stops at the number that takes the damping to its ceiling.
-/

variable {m n : ℕ}

/-- Where an iteration ends, and with what. -/
structure Ending (n : ℕ) where
  params : Fin n → ℚ
  state : State ℚ
  status : Status

def rise (start sos : ℚ) : ℚ :=
  (sos - start) / (1 + start)

section Search

variable (landscape : Landscape ℚ m n) (steps : Vector ℚ n) (config : Config ℚ)
  (params : Fin n → ℚ) (state : State ℚ)

/-- The damped step after every number of boosts, and the first number, not zero,
that takes the damping to its ceiling. -/
structure Search (start : ℚ) (delta : ℕ → Fin n → ℚ) (last : ℕ) : Prop where
  start : landscape.sos params = some start
  measurable : ∀ j, landscape.Measurable steps params j
  solves : ∀ k, IsDampedStep (landscape.jacobian steps params) (landscape.residuals params)
    (state.damping * config.boost ^ k) (delta k)
  last : IsLeast {k | 1 ≤ k ∧ config.maxDamping ≤ state.damping * config.boost ^ k} last

/-- The step can be evaluated and does not rise too far. -/
def Settles (start : ℚ) (delta : ℕ → Fin n → ℚ) (k : ℕ) : Prop :=
  ∃ sos, landscape.sos (params + delta k) = some sos ∧ rise start sos < config.tolerance

inductive Found (start : ℚ) (delta : ℕ → Fin n → ℚ) (last : ℕ) : Ending n → Prop where
  | kept {k sos} : IsLeast {k | k < last ∧ Settles landscape config params start delta k} k →
      landscape.sos (params + delta k) = some sos → rise start sos ≤ 0 →
      Found start delta last {
        params := params + delta k
        state := {
          damping := state.damping * config.boost ^ k * config.shrink
          outer := state.outer + 1
          inner := k + 1
          sos := some sos }
        status := if rise start sos ≤ -config.tolerance then .down else .level }
  | negligible {k sos} :
      IsLeast {k | k < last ∧ Settles landscape config params start delta k} k →
      landscape.sos (params + delta k) = some sos → 0 < rise start sos →
      Found start delta last {
        params
        state := {
          damping := state.damping * config.boost ^ k
          outer := state.outer + 1
          inner := k + 1
          sos := some start }
        status := .level }
  | exhausted : (∀ k < last, ¬ Settles landscape config params start delta k) →
      Found start delta last {
        params
        state := {
          damping := state.damping * config.boost ^ last
          outer := state.outer + 1
          inner := last
          sos := some start }
        status := .bad }

inductive LineSearch : Ending n → Prop where
  | startFails : landscape.sos params = none →
      LineSearch ⟨params, { state with outer := state.outer + 1, inner := 0 }, .bad⟩
  | jacobianFails {start j} : landscape.sos params = some start →
      ¬ landscape.Measurable steps params j →
      LineSearch
        ⟨params, { state with outer := state.outer + 1, inner := 0, sos := some start }, .bad⟩
  | searched {start delta last ending} :
      Search landscape steps config params state start delta last →
      Found landscape config params state start delta last ending → LineSearch ending

end Search

section Unique

variable {landscape : Landscape ℚ m n} {steps : Vector ℚ n} {config : Config ℚ}
  {params : Fin n → ℚ} {state : State ℚ}

theorem Found.unique {start : ℚ} {delta : ℕ → Fin n → ℚ} {last : ℕ} {first second : Ending n}
    (one : Found landscape config params state start delta last first)
    (other : Found landscape config params state start delta last second) : first = second := by
  cases one with
  | kept least found falls =>
      cases other with
      | kept again same _ =>
          cases least.unique again
          cases Option.some.inj (found.symm.trans same)
          rfl
      | negligible again same rises =>
          cases least.unique again
          cases Option.some.inj (found.symm.trans same)
          exact absurd rises falls.not_gt
      | exhausted never => exact absurd least.1.2 (never _ least.1.1)
  | negligible least found rises =>
      cases other with
      | kept again same falls =>
          cases least.unique again
          cases Option.some.inj (found.symm.trans same)
          exact absurd rises falls.not_gt
      | negligible again same _ =>
          cases least.unique again
          rfl
      | exhausted never => exact absurd least.1.2 (never _ least.1.1)
  | exhausted never =>
      cases other with
      | kept least _ _ => exact absurd least.1.2 (never _ least.1.1)
      | negligible least _ _ => exact absurd least.1.2 (never _ least.1.1)
      | exhausted _ => rfl

theorem LineSearch.unique (positive : 0 < state.damping) (grows : 0 < config.boost)
    {first second : Ending n} (one : LineSearch landscape steps config params state first)
    (other : LineSearch landscape steps config params state second) : first = second := by
  cases one with
  | startFails failed =>
      cases other with
      | startFails _ => rfl
      | jacobianFails started _ => exact absurd (failed.symm.trans started) nofun
      | searched search _ => exact absurd (failed.symm.trans search.start) nofun
  | jacobianFails started failed =>
      cases other with
      | startFails never => exact absurd (never.symm.trans started) nofun
      | jacobianFails again _ =>
          cases Option.some.inj (started.symm.trans again)
          rfl
      | searched search _ => exact absurd (search.measurable _) failed
  | searched search found =>
      cases other with
      | startFails never => exact absurd (never.symm.trans search.start) nofun
      | jacobianFails _ failed => exact absurd (search.measurable _) failed
      | searched again foundAgain =>
          cases Option.some.inj (search.start.symm.trans again.start)
          cases search.last.unique again.last
          have same : ∀ k, _ = _ := fun k =>
            (search.solves k).unique _ (mul_pos positive (pow_pos grows k)) (again.solves k)
          cases funext same
          exact found.unique foundAgain

end Unique

section Trials

variable {σ : Type} {problem : Problem ℚ σ} {landscape : Landscape ℚ m n}
  {stands : (Fin n → ℚ) → σ → Prop} {steps : Vector ℚ n} {config : Config ℚ}
  {params : Fin n → ℚ} {before : Measured ℚ σ m n} {equations : NormalEquations ℚ n}
  {outer inner : ℕ} {start damping : ℚ}

theorem judge_rational (nonneg : 0 ≤ start) (tolerance : ℚ) (sos : Option ℚ) :
    judge tolerance sos start = .ok (.ofRise tolerance sos (rise start (sos.getD 0))) := by
  have scale : 1 + start ≠ 0 := by positivity
  rw [judge_eq, relativeRise, Rational.isZero_eq, decide_eq_false scale]
  rfl

theorem host_nudge (delta : List ℚ) :
    (problem.host steps).nudge delta before = {
      value := (problem.nudge delta before.problem).value
      state := { before with problem := (problem.nudge delta before.problem).state }
      log := (problem.nudge delta before.problem).log } := rfl

theorem ofRise_some (tolerance sos rise : ℚ) :
    Verdict.ofRise tolerance (some sos) rise =
      if rise ≤ -tolerance then .down
      else if rise ≤ 0 then .level
      else if rise < tolerance then .negligible
      else .rejected := by
  simp [Verdict.ofRise, hasFailed_eq]

/-- All that can become of a trial on a landscape: where it leaves the parameters
and how it ends the iteration, if it does. -/
inductive Tried (landscape : Landscape ℚ m n) (config : Config ℚ) (params delta : Fin n → ℚ)
    (outer inner : ℕ) (start damping : ℚ) :
    (Fin n → ℚ) → Option (State ℚ × Status) → Prop where
  | rejected : (∀ sos, landscape.sos (params + delta) = some sos →
        config.tolerance ≤ rise start sos) →
      Tried landscape config params delta outer inner start damping params none
  | kept {sos} : landscape.sos (params + delta) = some sos → rise start sos < config.tolerance →
      rise start sos ≤ 0 →
      Tried landscape config params delta outer inner start damping (params + delta)
        (some ({ damping := damping * config.shrink, outer, inner, sos := some sos },
          if rise start sos ≤ -config.tolerance then .down else .level))
  | negligible {sos} : landscape.sos (params + delta) = some sos →
      rise start sos < config.tolerance → 0 < rise start sos →
      Tried landscape config params delta outer inner start damping params
        (some ({ damping, outer, inner, sos := some start }, .level))

/-- A trial on a landscape ends as the rise at its step is judged. -/
theorem attempt_follows (steps : Vector ℚ n) (config : Config ℚ) (outer inner : ℕ)
    (follows : problem.Follows landscape stands) (standing : stands params before.problem)
    (nonneg : 0 ≤ start) (usable : (equations.step damping).isUsable = true)
    {delta : Fin n → ℚ} (stepIs : (equations.step damping).delta.get = delta) :
    ∃ moved restored, stands (params + delta) moved ∧ stands params restored ∧
      ∀ ending after, Returns (attempt (problem.host steps) config equations outer start inner
          damping) before ending after ↔
        (Verdict.ofRise config.tolerance (landscape.sos (params + delta))
          (rise start ((landscape.sos (params + delta)).getD 0))).Ends config outer inner start
          damping (landscape.sos (params + delta)) { before with problem := moved }
          { before with problem := restored } ending after := by
  have sent : (equations.step damping).delta.toList = List.ofFn delta := by
    rw [← stepIs, ← Vector.toList_ofFn]
    congr 1
    ext i inside
    simp [Vector.get]
  have taken : (List.ofFn delta).map Neg.neg = List.ofFn (-delta) := by
    rw [List.map_ofFn]
    rfl
  obtain ⟨trial, trialIs, trialValue, trialStands, _⟩ :=
    follows.nudged standing (rfl : params + delta = _)
  obtain ⟨undone, undoneIs, _, undoneStands, _⟩ :=
    follows.nudged trialStands (add_neg_cancel_right params delta)
  refine ⟨trial.state, undone.state, trialStands, undoneStands, fun ending after => ?_⟩
  rw [returns_attempt, if_pos usable]
  simp only [sent, taken, host_nudge, trialIs, trialValue, undoneIs, judge_rational nonneg,
    Except.ok.injEq, exists_eq_left']

theorem attempt_spec (outer inner : ℕ) (follows : problem.Follows landscape stands)
    (standing : stands params before.problem) (nonneg : 0 ≤ start)
    (tolerance : 0 < config.tolerance) (usable : (equations.step damping).isUsable = true)
    {delta : Fin n → ℚ} (stepIs : (equations.step damping).delta.get = delta) :
    ∃ place ending after, Returns (attempt (problem.host steps) config equations outer start inner
        damping) before ending after ∧
      stands place after.problem ∧
      Tried landscape config params delta outer inner start damping place ending := by
  obtain ⟨_, _, trialStands, undoneStands, attempted⟩ :=
    attempt_follows steps config outer inner follows standing nonneg usable stepIs
  simp only [attempted]
  cases found : landscape.sos (params + delta) with
  | none =>
      refine ⟨params, none, _, ⟨rfl, rfl⟩, undoneStands, .rejected ?_⟩
      intro sos evaluated
      exact absurd (found.symm.trans evaluated) nofun
  | some sos =>
      rw [Option.getD_some, ofRise_some]
      by_cases drops : rise start sos ≤ -config.tolerance
      · have falls : rise start sos ≤ 0 := by linarith
        rw [if_pos drops]
        refine ⟨_, _, _, ⟨rfl, rfl⟩, trialStands, ?_⟩
        have kept : Tried landscape config params delta outer inner start damping _ _ :=
          .kept found (by linarith) falls
        rwa [if_pos drops] at kept
      · rw [if_neg drops]
        by_cases falls : rise start sos ≤ 0
        · rw [if_pos falls]
          refine ⟨_, _, _, ⟨rfl, rfl⟩, trialStands, ?_⟩
          have kept : Tried landscape config params delta outer inner start damping _ _ :=
            .kept found (by linarith) falls
          rwa [if_neg drops] at kept
        · rw [if_neg falls]
          have rises := not_le.mp falls
          by_cases slight : rise start sos < config.tolerance
          · rw [if_pos slight]
            exact ⟨_, _, _, ⟨rfl, rfl⟩, undoneStands, .negligible found slight rises⟩
          · rw [if_neg slight]
            refine ⟨_, _, _, ⟨rfl, rfl⟩, undoneStands, .rejected ?_⟩
            intro other evaluated
            cases Option.some.inj (found.symm.trans evaluated)
            exact not_lt.mp slight

/-- The trials that follow `inner` rejected ones find what the search finds. -/
theorem trials_spec (follows : problem.Follows landscape stands)
    (accepted : config.Accepted m n) {state : State ℚ} (positive : 0 < state.damping)
    (nonneg : 0 ≤ start) {jacobian : Table ℚ m n} {residuals : Vector ℚ m}
    {delta : ℕ → Fin n → ℚ}
    (deltaIs : ∀ k, ((NormalEquations.ofJacobian jacobian residuals).step
      (state.damping * config.boost ^ k)).delta.get = delta k)
    {last : ℕ}
    (least : IsLeast {k | 1 ≤ k ∧ config.maxDamping ≤ state.damping * config.boost ^ k} last)
    {limit : ℕ} (room : inner < last) (enough : last ≤ inner + limit)
    (rejected : ∀ k < inner, ¬ Settles landscape config params start delta k)
    (standing : stands params before.problem) :
    ∃ ending after, Returns (trials (problem.host steps) config
        (NormalEquations.ofJacobian jacobian residuals) (state.outer + 1) start limit inner
        (state.damping * config.boost ^ inner)) before (ending.state, ending.status) after ∧
      stands ending.params after.problem ∧
      Found landscape config params state start delta last ending := by
  -- on the trials left; those behind rose too far, and the last one is among those left
  induction limit generalizing inner before with
  | zero => omega
  | succ limit ih =>
      have grown : 0 < state.damping * config.boost ^ inner :=
        accepted.boosted_pos positive inner
      have usable := (NormalEquations.step_ofJacobian jacobian residuals grown).1
      obtain ⟨place, found, middle, attempted, standing, tried⟩ := attempt_spec (state.outer + 1)
        (inner + 1) follows standing nonneg accepted.tolerance usable (deltaIs inner)
      simp only [returns_trials_succ]
      have first (settles : Settles landscape config params start delta inner) :
          IsLeast {k | k < last ∧ Settles landscape config params start delta k} inner :=
        ⟨⟨room, settles⟩, fun k settled => not_lt.mp fun earlier => rejected k earlier settled.2⟩
      cases tried with
      | kept evaluated settles falls =>
          exact ⟨_, middle, ⟨_, middle, attempted, rfl, rfl⟩, standing,
            .kept (first ⟨_, evaluated, settles⟩) evaluated falls⟩
      | negligible evaluated settles climbs =>
          exact ⟨_, middle, ⟨_, middle, attempted, rfl, rfl⟩, standing,
            .negligible (first ⟨_, evaluated, settles⟩) evaluated climbs⟩
      | rejected rises =>
          have notSettled : ∀ k < inner + 1, ¬ Settles landscape config params start delta k := by
            intro k earlier
            rcases Nat.lt_succ_iff_lt_or_eq.mp earlier with earlier | rfl
            · exact rejected k earlier
            · rintro ⟨sos, evaluated, settles⟩
              exact absurd settles (rises sos evaluated).not_gt
          have boosted : state.damping * config.boost ^ inner * config.boost =
              state.damping * config.boost ^ (inner + 1) := by
            rw [mul_assoc, pow_succ]
          rw [boosted]
          by_cases reached : config.maxDamping ≤ state.damping * config.boost ^ (inner + 1)
          · obtain rfl : inner + 1 = last :=
              le_antisymm room (least.2 ⟨Nat.le_add_left 1 inner, reached⟩)
            refine ⟨_, middle, ⟨none, middle, attempted, ?_⟩, standing, .exhausted notSettled⟩
            simp only [Rational.le_eq, reached, decide_true, ↓reduceIte, and_self]
          · have further : inner + 1 < last := by
              refine lt_of_le_of_ne room ?_
              rintro rfl
              exact reached least.1.2
            obtain ⟨ending, after, returned, stands, search⟩ :=
              ih further (by omega) notSettled standing
            refine ⟨ending, after, ⟨none, middle, attempted, ?_⟩, stands, search⟩
            simpa only [Rational.le_eq, reached, decide_false, Bool.false_eq_true, ↓reduceIte]
              using returned

/-- Some number of boosts takes the damping to its ceiling, and the bound on the
trials is such a number. -/
theorem exists_last (grows : 1 < config.boost) (positive : 0 < damping) :
    ∃ last, IsLeast {k | 1 ≤ k ∧ config.maxDamping ≤ damping * config.boost ^ k} last ∧
      last ≤ Scalar.growthBound damping config.boost config.maxDamping := by
  have reaches : 1 ≤ Scalar.growthBound damping config.boost config.maxDamping ∧
      config.maxDamping ≤
        damping * config.boost ^ Scalar.growthBound damping config.boost config.maxDamping :=
    ⟨Rational.growthBound_pos .., Rational.le_mul_pow_growthBound config.maxDamping positive grows⟩
  exact ⟨_, Nat.isLeast_find ⟨_, reaches⟩, Nat.find_min' _ reaches⟩

end Trials

section Iteration

variable {σ : Type} {problem : Problem ℚ σ} {landscape : Landscape ℚ m n}
  {stands : (Fin n → ℚ) → σ → Prop} {config : Config ℚ} {params : Fin n → ℚ}
  {before : Measured ℚ σ m n} {state : State ℚ}

theorem iterate_spec (follows : problem.Follows landscape stands)
    (nonneg : ∀ place sos, landscape.sos place = some sos → 0 ≤ sos) (steps : Vector ℚ n)
    (accepted : config.Accepted m n) (positive : 0 < state.damping)
    (standing : stands params before.problem) :
    ∃ ending after, Returns (iterate (problem.host steps) config state) before
        (ending.state, ending.status) after ∧
      stands ending.params after.problem ∧
      LineSearch landscape steps config params state ending := by
  obtain rfl := accepted.pointCount
  obtain rfl := accepted.paramCount
  have evaluates := follows.evaluate standing
  have evaluate : (problem.host steps).evaluate before = {
      value := (problem.evaluate before.problem).value
      state := { before with problem := (problem.evaluate before.problem).state }
      log := (problem.evaluate before.problem).log } := rfl
  simp only [iterate, returns_iterateWithin, evaluate, evaluates.2, hasFailed_eq]
  cases started : landscape.sos params with
  | none => exact ⟨_, _, ⟨rfl, rfl⟩, evaluates.1, .startFails started⟩
  | some start =>
      have fresh : problem.Fresh landscape stands params
          { before with problem := (problem.evaluate before.problem).state }.problem :=
        follows.fresh standing (by rw [started]; rfl)
      simp only [Option.isNone_some, Bool.false_eq_true, ↓reduceIte, Option.some.injEq,
        exists_eq_left']
      rcases Problem.buildJacobian_spec follows fresh steps with
        ⟨measurable, built, fresh, jacobian, returned⟩ | ⟨⟨j, failing⟩, built, standing, returned⟩
      · obtain ⟨last, least, enough⟩ := exists_last accepted.one_lt_boost positive
        have solves : ∀ k, IsDampedStep (landscape.jacobian steps params)
            (landscape.residuals params) (state.damping * config.boost ^ k)
            ((NormalEquations.ofJacobian built.jacobian
              (Vector.ofFn (landscape.residuals params))).step
                (state.damping * config.boost ^ k)).delta.get := by
          intro k
          have solved := (NormalEquations.step_ofJacobian built.jacobian
            (Vector.ofFn (landscape.residuals params)) (accepted.boosted_pos positive k)).2
          rwa [jacobian, vector_get_ofFn] at solved
        obtain ⟨ending, after, tried, standing, found⟩ := trials_spec follows accepted positive
          (nonneg params start started) (fun _ => rfl) least least.1.1
          (enough.trans (Nat.le_add_left _ 0)) nofun fresh.stands
        rw [pow_zero, mul_one] at tried
        exact ⟨ending, after, ⟨true, built, returned, built.jacobian, _, built,
          Problem.gather_spec fresh, tried⟩, standing,
          .searched ⟨started, measurable, solves, least⟩ found⟩
      · exact ⟨_, built, ⟨false, built, returned, rfl, rfl⟩, standing,
          .jacobianFails started failing⟩

/-- An iteration returns, and what it leaves and answers is the one ending of the
search. -/
theorem iterate_refines_lineSearch (follows : problem.Follows landscape stands)
    (nonneg : ∀ place sos, landscape.sos place = some sos → 0 ≤ sos) (steps : Vector ℚ n)
    {tolerance boost shrink : ℚ} {range : DampingRange ℚ}
    (made : Config.make n m tolerance range boost shrink = .ok config)
    (positive : 0 < state.damping) (standing : stands params before.problem) :
    ∃ ending after, Returns (iterate (problem.host steps) config state) before
        (ending.state, ending.status) after ∧
      stands ending.params after.problem ∧
      ∀ other, LineSearch landscape steps config params state other ↔ other = ending := by
  have accepted := Config.accepted_of_make made
  obtain ⟨ending, after, returned, standing, search⟩ :=
    iterate_spec follows nonneg steps accepted positive standing
  refine ⟨ending, after, returned, standing, fun other => ⟨fun found => ?_, ?_⟩⟩
  · exact found.unique positive accepted.boost_pos search
  · rintro rfl
    exact search

end Iteration

/-- A parabola around one, on which nothing beyond three can be evaluated. -/
def parabola : Landscape ℚ 1 1 where
  sos params := if params 0 ≤ 3 then some ((params 0 - 1) * (params 0 - 1)) else none
  residuals params _ := params 0 - 1

def parabolaConfig : Config ℚ where
  tolerance := 1 / 10
  paramCount := 1
  pointCount := 1
  initialDamping := 1
  maxDamping := 100
  boost := 2
  shrink := 1 / 2

def parabolaHost : Host ℚ (Measured ℚ (Standing ℚ 1) 1 1) :=
  parabola.problem.host #v[1 / 2]

def parabolaStart : Measured ℚ (Standing ℚ 1) 1 1 :=
  Problem.initial ⟨fun _ => 0, []⟩

theorem parabola_nonneg : ∀ place sos, parabola.sos place = some sos → 0 ≤ sos := by
  intro place sos evaluated
  simp only [parabola, Option.ite_none_right_eq_some, Option.some.injEq] at evaluated
  rw [← evaluated.2]
  exact mul_self_nonneg _

theorem iterate_refines_lineSearch_parabola :
    Config.make 1 1 (1 / 10) ⟨1, 100⟩ 2 (1 / 2) = .ok parabolaConfig ∧
    ∃ ending after, Returns (iterate parabolaHost parabolaConfig (.initial parabolaConfig))
        parabolaStart (ending.state, ending.status) after ∧
      after.problem.params = ending.params ∧
      ∀ other, LineSearch parabola #v[1 / 2] parabolaConfig (fun _ => 0)
        (.initial parabolaConfig) other ↔ other = ending := by
  have made : Config.make 1 1 (1 / 10) ⟨1, 100⟩ 2 (1 / 2) = .ok parabolaConfig := by
    with_unfolding_all rfl
  exact ⟨made, iterate_refines_lineSearch parabola.follows parabola_nonneg #v[1 / 2] made
    (by decide +kernel) rfl⟩

end OpticTune.Solver
