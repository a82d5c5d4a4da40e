import Mathlib.Algebra.Order.Ring.Rat
import OpticTune.Proofs.Solver.Course
import OpticTune.Proofs.Solver.Damping
import OpticTune.Proofs.Solver.Discipline

namespace OpticTune.Solver

open Act (Returns)
open Linear (NormalEquations)

/-! How often one iteration boosts its damping.

The ceiling is looked at after a boost and never before one, so there is always a
first trial, and the boosts that take the damping to its ceiling bound the trials.
In exact arithmetic every damping that is positive has a step, so every trial is
one the host is asked for.
-/

variable {σ : Type}

/-- How the trials of an iteration end if its damping is at the ceiling after `last`
boosts; `inner` trials were made before. -/
inductive Concludes (config : Config ℚ) (outer : ℕ) (start : ℚ) (inner : ℕ) (damping : ℚ)
    (last : ℕ) : List (Trial ℚ) → State ℚ × Status → Prop where
  | kept {earlier trial status} : (∀ other ∈ earlier, other.undone.isSome) →
      trial.undone = none → earlier.length < last → status = .down ∨ status = .level →
      Concludes config outer start inner damping last (earlier ++ [trial])
        ({ damping := damping * config.boost ^ earlier.length * config.shrink, outer
           inner := inner + earlier.length + 1, sos := trial.sos }, status)
  | negligible {earlier trial} : (∀ other ∈ earlier, other.undone.isSome) →
      trial.undone.isSome → earlier.length < last →
      Concludes config outer start inner damping last (earlier ++ [trial])
        ({ damping := damping * config.boost ^ earlier.length, outer
           inner := inner + earlier.length + 1, sos := some start }, .level)
  | exhausted {tried} : (∀ trial ∈ tried, trial.undone.isSome) → tried.length = last →
      Concludes config outer start inner damping last tried
        ({ damping := damping * config.boost ^ last, outer, inner := inner + last
           sos := some start }, .bad)

/-- The calls one iteration makes and how it ends, if its damping is at the ceiling
after `last` boosts. -/
inductive Scheduled (host : Host ℚ σ) (config : Config ℚ) (state : State ℚ) (before : σ)
    (last : ℕ) : List (Call ℚ) → State ℚ × Status → Prop where
  | startFailed : (host.evaluate before).value = none →
      Scheduled host config state before last [.evaluate none]
        ({ state with outer := state.outer + 1, inner := 0 }, .bad)
  | jacobianFailed {start middle} : (host.evaluate before).value = some start →
      Returns host.buildJacobian (host.evaluate before).state false middle →
      Scheduled host config state before last [.evaluate (some start), .buildJacobian false]
        ({ state with outer := state.outer + 1, inner := 0, sos := some start }, .bad)
  | tried {start middle jacobian residuals gathered tried ending} :
      (host.evaluate before).value = some start →
      Returns host.buildJacobian (host.evaluate before).state true middle →
      Returns (host.gather config.pointCount config.paramCount) middle (jacobian, residuals)
        gathered →
      (∀ k (made : k < tried.length), tried[k].delta =
        ((NormalEquations.ofJacobian jacobian residuals).step
          (state.damping * config.boost ^ k)).delta.toList) →
      0 < tried.length → tried.length ≤ last → ending.1.inner = tried.length →
      Concludes config (state.outer + 1) start 0 state.damping last tried ending →
      Scheduled host config state before last
        (.evaluate (some start) :: .buildJacobian true ::
          (gathering config.pointCount config.paramCount ++ tried.flatMap Trial.calls)) ending

section Concludes

variable {config : Config ℚ} {outer inner last : ℕ} {start damping : ℚ} {tried : List (Trial ℚ)}
  {ending : State ℚ × Status}

theorem Concludes.of_judged {trial : Trial ℚ} (room : 0 < last)
    (judged : trial.Judged config outer (inner + 1) start damping (some ending)) :
    Concludes config outer start inner damping last [trial] ending := by
  cases judged with
  | kept kept accepted =>
      have ends : Concludes config outer start inner damping last ([] ++ [trial]) _ :=
        .kept nofun kept room (accepted.imp_right And.left)
      simpa using ends
  | negligible undone _ =>
      have ends : Concludes config outer start inner damping last ([] ++ [trial]) _ :=
        .negligible nofun undone room
      simpa using ends

theorem Concludes.of_exhausted {trial : Trial ℚ} (undone : trial.undone.isSome) :
    Concludes config outer start inner damping 1 [trial]
      ({ damping := damping * config.boost, outer, inner := inner + 1, sos := some start },
        .bad) := by
  have ends : Concludes config outer start inner damping 1 [trial] _ :=
    .exhausted (by simpa using undone) rfl
  rwa [pow_one] at ends

theorem Concludes.boosted {trial : Trial ℚ} (undone : trial.undone.isSome)
    (concludes : Concludes config outer start (inner + 1) (damping * config.boost) last tried
      ending) : Concludes config outer start inner damping (last + 1) (trial :: tried) ending := by
  have once (count : ℕ) : damping * config.boost * config.boost ^ count =
      damping * config.boost ^ (count + 1) := by
    rw [pow_succ', mul_assoc]
  have counted (count : ℕ) : inner + 1 + count = inner + (count + 1) := by omega
  cases concludes with
  | @kept earlier final status others kept room accepted =>
      rw [once, counted]
      have ends : Concludes config outer start inner damping (last + 1)
          ((trial :: earlier) ++ [final]) _ :=
        .kept (List.forall_mem_cons.mpr ⟨undone, others⟩) kept (Nat.succ_lt_succ room) accepted
      exact ends
  | @negligible earlier final others last room =>
      rw [once, counted]
      have ends : Concludes config outer start inner damping _
          ((trial :: earlier) ++ [final]) _ :=
        .negligible (List.forall_mem_cons.mpr ⟨undone, others⟩) last (Nat.succ_lt_succ room)
      exact ends
  | exhausted others full =>
      rw [once, counted]
      exact .exhausted (List.forall_mem_cons.mpr ⟨undone, others⟩) (congrArg (· + 1) full)

theorem Concludes.count (concludes : Concludes config outer start inner damping last tried ending)
    (one : 1 ≤ last) :
    0 < tried.length ∧ tried.length ≤ last ∧ ending.1.inner = inner + tried.length := by
  cases concludes with
  | kept _ _ room _ | negligible _ _ room =>
      refine ⟨?_, ?_, ?_⟩ <;> simp only [List.length_append, List.length_singleton] <;> omega
  | exhausted _ full => exact ⟨by omega, full.le, by rw [full]⟩

theorem Concludes.damping_pos
    (concludes : Concludes config outer start inner damping last tried ending)
    (positive : 0 < damping) (grows : 0 < config.boost) (shrinks : 0 < config.shrink) :
    0 < ending.1.damping := by
  have grown (count : ℕ) : 0 < damping * config.boost ^ count :=
    mul_pos positive (pow_pos grows count)
  cases concludes with
  | kept => exact mul_pos (grown _) shrinks
  | negligible | exhausted => exact grown _

end Concludes

section Trials

variable {config : Config ℚ} {outer inner last : ℕ} {start damping : ℚ} {tried : List (Trial ℚ)}
  {ending : State ℚ × Status}

/-- A boost that reaches the ceiling is the last. -/
theorem last_eq_one (least : IsLeast {k | 1 ≤ k ∧ config.maxDamping ≤ damping * config.boost ^ k}
    last) (reached : config.maxDamping ≤ damping * config.boost) : last = 1 := by
  have bound : last ≤ 1 := least.2 ⟨le_rfl, by rwa [pow_one]⟩
  exact le_antisymm bound least.1.1

/-- A boost that does not reach the ceiling leaves one less to make. -/
theorem exists_fewer (least : IsLeast {k | 1 ≤ k ∧ config.maxDamping ≤ damping * config.boost ^ k}
    last) (below : ¬ config.maxDamping ≤ damping * config.boost) :
    ∃ fewer, last = fewer + 1 ∧ IsLeast
      {k | 1 ≤ k ∧ config.maxDamping ≤ damping * config.boost * config.boost ^ k} fewer := by
  obtain ⟨⟨one, ceiling⟩, smallest⟩ := least
  have further : last ≠ 1 := by
    rintro rfl
    rw [pow_one] at ceiling
    exact below ceiling
  obtain ⟨fewer, rfl⟩ := Nat.exists_eq_add_of_le' one
  refine ⟨fewer, rfl, ⟨by omega, ?_⟩, ?_⟩
  · rwa [mul_assoc, ← pow_succ']
  · rintro k ⟨_, enough⟩
    rw [mul_assoc, ← pow_succ'] at enough
    exact Nat.le_of_succ_le_succ (smallest ⟨Nat.le_add_left 1 k, enough⟩)

variable {m n : ℕ} {jacobian : Table ℚ m n} {residuals : Vector ℚ m}

/-- Where the damping is positive there is a step to try. -/
theorem Attempted.exists_trial {found : Option (State ℚ × Status)}
    (attempted : Attempted config (NormalEquations.ofJacobian jacobian residuals) outer inner start
      damping tried found) (positive : 0 < damping) :
    ∃ trial, tried = [trial] ∧ trial.delta =
        ((NormalEquations.ofJacobian jacobian residuals).step damping).delta.toList ∧
      trial.Judged config outer inner start damping found := by
  cases attempted with
  | unusable none =>
      have usable := (NormalEquations.step_ofJacobian jacobian residuals positive).1
      exact absurd (none.symm.trans usable) Bool.false_ne_true
  | tried sent judged => exact ⟨_, rfl, sent, judged⟩

/-- Every attempt makes a trial, and the trials are those of the schedule. -/
theorem Tries.concludes (tries : Tries config (NormalEquations.ofJacobian jacobian residuals) outer
      start inner damping tried ending)
    (grows : 1 < config.boost) (positive : 0 < damping)
    (least : IsLeast {k | 1 ≤ k ∧ config.maxDamping ≤ damping * config.boost ^ k} last) :
    (∀ k (made : k < tried.length), tried[k].delta =
      ((NormalEquations.ofJacobian jacobian residuals).step
        (damping * config.boost ^ k)).delta.toList) ∧
    Concludes config outer start inner damping last tried ending := by
  have first {damping : ℚ} {trial : Trial ℚ} (sent : trial.delta =
      ((NormalEquations.ofJacobian jacobian residuals).step damping).delta.toList) :
      ∀ k (made : k < [trial].length), [trial][k].delta =
        ((NormalEquations.ofJacobian jacobian residuals).step
          (damping * config.boost ^ k)).delta.toList := by
    intro k made
    obtain rfl : k = 0 := by simpa using made
    rwa [pow_zero, mul_one]
  induction tries generalizing last with
  | ends attempted =>
      obtain ⟨trial, rfl, sent, judged⟩ := attempted.exists_trial positive
      exact ⟨first sent, .of_judged least.1.1 judged⟩
  | exhausted attempted reached =>
      obtain rfl := last_eq_one least (of_decide_eq_true reached)
      obtain ⟨trial, rfl, sent, ⟨⟩ | ⟨⟩ | undone⟩ := attempted.exists_trial positive
      exact ⟨first sent, .of_exhausted undone⟩
  | boosted attempted below _ ih =>
      obtain ⟨fewer, rfl, fewest⟩ := exists_fewer least (of_decide_eq_false below)
      obtain ⟨sentLater, concludes⟩ := ih (mul_pos positive (by linarith)) fewest
      obtain ⟨trial, rfl, sent, ⟨⟩ | ⟨⟩ | undone⟩ := attempted.exists_trial positive
      refine ⟨fun k made => ?_, concludes.boosted undone⟩
      cases k with
      | zero => exact first sent 0 Nat.one_pos
      | succ k =>
          rw [pow_succ', ← mul_assoc]
          exact sentLater k (Nat.lt_of_succ_lt_succ made)

end Trials

section Iteration

variable {host : Host ℚ σ} {config : Config ℚ} {state : State ℚ} {before after : σ} {last : ℕ}
  {ending : State ℚ × Status}

theorem iterate_records (grows : 1 < config.boost) (positive : 0 < state.damping)
    (least : IsLeast {k | 1 ≤ k ∧ config.maxDamping ≤ state.damping * config.boost ^ k} last)
    (returned : Returns (iterate host config state) before ending after) :
    ∃ calls, Returns (iterate host.recorded config state) ⟨before, []⟩ ending ⟨after, calls⟩ ∧
      Scheduled host config state before last calls ending := by
  have inverted := returns_iterateWithin.mp returned
  have evaluated : (host.recorded.evaluate ⟨before, []⟩).value = (host.evaluate before).value := rfl
  simp only [iterate, returns_iterateWithin, hasFailed_eq, evaluated, state_evaluate_recorded,
    List.nil_append] at inverted ⊢
  cases found : (host.evaluate before).value with
  | none =>
      simp only [found, Option.isNone_none, ↓reduceIte] at inverted ⊢
      obtain ⟨rfl, rfl⟩ := inverted
      exact ⟨_, ⟨rfl, rfl⟩, .startFailed found⟩
  | some start =>
      simp only [found, Option.isNone_some, Bool.false_eq_true, ↓reduceIte, Option.some.injEq,
        exists_eq_left'] at inverted ⊢
      obtain ⟨built, middle, building, rest⟩ := inverted
      have buildingRecorded :=
        returns_buildJacobian_recorded host [.evaluate (some start)] building
      cases built with
      | false =>
          obtain ⟨rfl, rfl⟩ := rest
          exact ⟨_, ⟨false, _, buildingRecorded, rfl, rfl⟩, .jacobianFailed found building⟩
      | true =>
          obtain ⟨jacobian, residuals, gathered, fetching, trying⟩ := rest
          obtain ⟨tried, recorded, tries⟩ := trials_tries trying
          obtain ⟨sent, concludes⟩ := tries.concludes grows positive least
          obtain ⟨some, bounded, counted⟩ := concludes.count least.1.1
          rw [Nat.zero_add] at counted
          refine ⟨_, ⟨true, _, buildingRecorded, jacobian, residuals, _,
            records_gather host _ _ _ fetching, recorded _⟩, ?_⟩
          simpa using Scheduled.tried found building fetching sent some bounded counted concludes

theorem Scheduled.damping_pos {calls : List (Call ℚ)} (grows : 0 < config.boost)
    (shrinks : 0 < config.shrink) (positive : 0 < state.damping)
    (scheduled : Scheduled host config state before last calls ending) :
    0 < ending.1.damping := by
  cases scheduled with
  | startFailed | jacobianFailed => exact positive
  | tried _ _ _ _ _ _ _ concludes => exact concludes.damping_pos positive grows shrinks

/-- Whatever a call answers, the next one starts with a damping that is positive. -/
theorem damping_pos_of_returns (grows : 1 < config.boost) (shrinks : 0 < config.shrink)
    (positive : 0 < state.damping)
    (returned : Returns (iterate host config state) before ending after) :
    0 < ending.1.damping := by
  obtain ⟨last, least, _⟩ := exists_last grows positive
  obtain ⟨_, _, scheduled⟩ := iterate_records grows positive least returned
  exact scheduled.damping_pos (by linarith) shrinks positive

theorem exists_iterate (grows : 1 < config.boost) (positive : 0 < state.damping)
    (ready : host.Ready config before) :
    ∃ ending after, Returns (iterate host config state) before ending after := by
  obtain ⟨last, ⟨⟨one, ceiling⟩, _⟩, enough⟩ := exists_last grows positive
  refine ready.exists_returns ⟨last - 1, by omega, ?_⟩
  rw [Scalar.grown_rational, Nat.sub_add_cancel one, Rational.le_eq]
  exact decide_eq_true ceiling

section Calls

variable {answers : List (State ℚ × Status)}

theorem Calls.answered (grows : 1 < config.boost) (shrinks : 0 < config.shrink)
    (calls : Calls host config state before answers after) (positive : 0 < state.damping) :
    ∀ k (called : k < answers.length), answers[k].1.outer = state.outer + (k + 1) ∧
      0 < answers[k].1.damping ∧ answers[k].2 ≠ .max := by
  induction calls with
  | nil => exact fun _ called => absurd called (Nat.not_lt_zero _)
  | cons returned _ ih =>
      obtain ⟨outer, unlimited⟩ := outer_of_returns_iterate returned
      have positive := damping_pos_of_returns grows shrinks positive returned
      intro k called
      cases k with
      | zero => exact ⟨outer, positive, unlimited⟩
      | succ k =>
          obtain ⟨further, answered⟩ := ih positive k (Nat.lt_of_succ_lt_succ called)
          refine ⟨?_, answered⟩
          rw [List.getElem_cons_succ, further, outer]
          omega

theorem exists_calls (grows : 1 < config.boost) (shrinks : 0 < config.shrink)
    (ready : ∀ here, host.Ready config here) (positive : 0 < state.damping) (before : σ)
    (count : ℕ) :
    ∃ answers after, Calls host config state before answers after ∧ answers.length = count := by
  induction count generalizing state before with
  | zero => exact ⟨[], before, .nil, rfl⟩
  | succ count ih =>
      obtain ⟨answer, middle, returned⟩ := exists_iterate grows positive (ready before)
      obtain ⟨answers, after, calls, length⟩ :=
        ih (damping_pos_of_returns grows shrinks positive returned) middle
      exact ⟨answer :: answers, after, .cons returned calls, congrArg (· + 1) length⟩

end Calls

end Iteration

/-- The schedule of one iteration, against any host: the boosts it takes to the
ceiling bound its trials, every trial has the next boosted damping, and the damping
left is positive, so that the same holds of all calls that follow. -/
theorem iterate_scheduled {paramCount pointCount : ℤ} {tolerance boost shrink : ℚ}
    {range : DampingRange ℚ} {config : Config ℚ}
    (made : Config.make paramCount pointCount tolerance range boost shrink = .ok config)
    {state : State ℚ} (positive : 0 < state.damping) (host : Host ℚ σ) (before : σ) :
    ∃ last, IsLeast {k | 1 ≤ k ∧ config.maxDamping ≤ state.damping * config.boost ^ k} last ∧
      (config.maxDamping ≤ state.damping * config.boost → last = 1) ∧
      (host.Ready config before →
        ∃ ending after, Returns (iterate host config state) before ending after) ∧
      (∀ ending after, Returns (iterate host config state) before ending after →
        ending.1.outer = state.outer + 1 ∧ ending.2 ≠ .max ∧ 0 < ending.1.damping ∧
        ∃ calls, Returns (iterate host.recorded config state) ⟨before, []⟩ ending ⟨after, calls⟩ ∧
          Scheduled host config state before last calls ending) ∧
      (∀ answers after, Calls host config state before answers after →
        ∀ k (called : k < answers.length), answers[k].1.outer = state.outer + (k + 1) ∧
          0 < answers[k].1.damping ∧ answers[k].2 ≠ .max) ∧
      ((∀ here, host.Ready config here) → ∀ count, ∃ answers after,
        Calls host config state before answers after ∧ answers.length = count) := by
  obtain ⟨grows, shrinks⟩ : 1 < config.boost ∧ 0 < config.shrink := by
    obtain ⟨_, _, _, _, _, ⟨⟨shrinks, _⟩, grows⟩, rfl⟩ := Config.make_eq_ok.mp made
    exact ⟨of_decide_eq_true grows, of_decide_eq_true shrinks⟩
  obtain ⟨last, least, _⟩ := exists_last grows positive
  refine ⟨last, least, last_eq_one least, exists_iterate grows positive, ?_, ?_, ?_⟩
  · intro ending after returned
    obtain ⟨outer, unlimited⟩ := outer_of_returns_iterate returned
    exact ⟨outer, unlimited, damping_pos_of_returns grows shrinks positive returned,
      iterate_records grows positive least returned⟩
  · exact fun answers after calls => calls.answered grows shrinks positive
  · exact fun ready => exists_calls grows shrinks ready positive before

theorem iterate_scheduled_hesitant :
    Config.make 1 1 (1 / 2) ⟨1, 100⟩ 2 (1 / 2) = .ok hesitantConfig ∧
    0 < (State.initial hesitantConfig).damping ∧
    ∃ last after calls, IsLeast {k | 1 ≤ k ∧ hesitantConfig.maxDamping ≤
        (State.initial hesitantConfig).damping * hesitantConfig.boost ^ k} last ∧
      Returns (iterate hesitant.host hesitantConfig (.initial hesitantConfig)) hesitant.start
        ({ damping := 1, outer := 1, inner := 2, sos := some 0 }, .down) after ∧
      Scheduled hesitant.host hesitantConfig (.initial hesitantConfig) hesitant.start last calls
        ({ damping := 1, outer := 1, inner := 2, sos := some 0 }, .down) := by
  have made : Config.make 1 1 (1 / 2) ⟨1, 100⟩ 2 (1 / 2) = .ok hesitantConfig := by
    with_unfolding_all rfl
  have positive : 0 < (State.initial hesitantConfig).damping := by decide +kernel
  have returned : Returns (iterate hesitant.host hesitantConfig (.initial hesitantConfig))
      hesitant.start ({ damping := 1, outer := 1, inner := 2, sos := some 0 }, .down)
      ⟨⟨[-1 / 3], [[-1 / 2], [1 / 2], [-1 / 3]], 1, 1, 3⟩, none⟩ :=
    ⟨by with_unfolding_all rfl, by with_unfolding_all rfl⟩
  obtain ⟨last, least, _, _, scheduled, _⟩ :=
    iterate_scheduled made positive hesitant.host hesitant.start
  obtain ⟨_, _, _, calls, _, scheduled⟩ := scheduled _ _ returned
  exact ⟨made, positive, last, _, calls, least, returned, scheduled⟩

end OpticTune.Solver
