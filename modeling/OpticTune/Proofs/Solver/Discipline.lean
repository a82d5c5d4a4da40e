import OpticTune.Proofs.Solver.Iteration
import OpticTune.Proofs.Solver.Recorded
import OpticTune.Sample.Script
import OpticTune.Scalar.Rational

namespace OpticTune.Solver

open Act (Returns)
open Linear (NormalEquations)

/-! The order of the calls one iteration makes.

Whatever a host answers, an iteration evaluates once, builds the Jacobian at most
once, fetches every entry once and then only nudges. A nudge is followed at once
by its opposite, unless it is the last call of an iteration that keeps it.
-/

variable {α σ : Type}

/-- A step that was sent, what it was answered, and what taking it back was
answered if it was taken back. -/
structure Trial (α : Type) where
  delta : List α
  sos : Option α
  undone : Option (Option α)

def Trial.calls [Neg α] (trial : Trial α) : List (Call α) :=
  .nudge trial.delta trial.sos ::
    (trial.undone.map (Call.nudge (trial.delta.map Neg.neg))).toList

variable [Scalar α]

/-- The sum of squares did not rise. -/
def Trial.Falls (start : α) (trial : Trial α) : Prop :=
  ∃ sos rise, trial.sos = some sos ∧ relativeRise sos start = .ok rise ∧
    Scalar.le rise 0 = true

/-- Both the step and its opposite can be sent to a host with `n` parameters. -/
def Trial.Sendable (n : Nat) (trial : Trial α) : Prop :=
  trial.delta.length = n ∧ (∀ change ∈ trial.delta, Scalar.isFinite change = true) ∧
    ∀ change ∈ trial.delta.map Neg.neg, Scalar.isFinite change = true

/-- How an attempt ends with the trial it makes. -/
inductive Trial.Judged (config : Config α) (outer inner : Nat) (start damping : α)
    (trial : Trial α) : Option (State α × Status) → Prop where
  | kept {status} : trial.undone = none → status = .down ∨ status = .level ∧ trial.Falls start →
      Judged config outer inner start damping trial
        (some ({ damping := damping * config.shrink, outer, inner, sos := trial.sos }, status))
  | negligible : trial.undone.isSome → ¬ trial.Falls start →
      Judged config outer inner start damping trial
        (some ({ damping, outer, inner, sos := some start }, .level))
  | rejected : trial.undone.isSome → Judged config outer inner start damping trial none

/-- The trials an attempt makes, at most one, and how it ends. -/
inductive Attempted {n : Nat} (config : Config α) (equations : NormalEquations α n)
    (outer inner : Nat) (start damping : α) : List (Trial α) → Option (State α × Status) → Prop where
  | unusable : (equations.step damping).isUsable = false →
      Attempted config equations outer inner start damping [] none
  | tried {trial ending} : trial.delta = (equations.step damping).delta.toList →
      trial.Judged config outer inner start damping ending →
      Attempted config equations outer inner start damping [trial] ending

/-- The trials of an iteration from some attempt on, and how it ends. -/
inductive Tries {n : Nat} (config : Config α) (equations : NormalEquations α n) (outer : Nat)
    (start : α) : (inner : Nat) → (damping : α) → List (Trial α) → State α × Status → Prop where
  | ends {inner damping tried ending} :
      Attempted config equations outer (inner + 1) start damping tried (some ending) →
      Tries config equations outer start inner damping tried ending
  | exhausted {inner damping tried} :
      Attempted config equations outer (inner + 1) start damping tried none →
      Scalar.le config.maxDamping (damping * config.boost) = true →
      Tries config equations outer start inner damping tried
        ({ damping := damping * config.boost, outer, inner := inner + 1, sos := some start }, .bad)
  | boosted {inner damping tried rest ending} :
      Attempted config equations outer (inner + 1) start damping tried none →
      Scalar.le config.maxDamping (damping * config.boost) = false →
      Tries config equations outer start (inner + 1) (damping * config.boost) rest ending →
      Tries config equations outer start inner damping (tried ++ rest) ending

/-- The trials that may remain of an iteration that ends with a status. -/
inductive Schedule (start : α) : List (Trial α) → Status → Prop where
  | exhausted : Schedule start [] .bad
  | down {trial} : trial.undone = none → Schedule start [trial] .down
  | level {trial} : trial.undone = none → trial.Falls start → Schedule start [trial] .level
  | negligible {trial} : trial.undone.isSome → ¬ trial.Falls start →
      Schedule start [trial] .level
  | rejected {trial rest status} : trial.undone.isSome → Schedule start rest status →
      Schedule start (trial :: rest) status

/-- The calls of an iteration that ends with a status. -/
inductive Disciplined (config : Config α) : List (Call α) → Status → Prop where
  | startFailed {sos} : hasFailed sos = true → Disciplined config [.evaluate sos] .bad
  | jacobianFailed {start} : Scalar.isFinite start = true →
      Disciplined config [.evaluate (some start), .buildJacobian false] .bad
  | tried {start} {trials : List (Trial α)} {status} : Scalar.isFinite start = true →
      (∀ trial ∈ trials, trial.Sendable config.paramCount) →
      (∀ trial ∈ trials.dropLast, trial.undone.isSome) →
      ((∃ trial ∈ trials.getLast?, trial.undone = none) ↔
        status = .down ∨ status = .level ∧ ∃ trial ∈ trials.getLast?, trial.Falls start) →
      Disciplined config
        (.evaluate (some start) :: .buildJacobian true ::
          (gathering config.pointCount config.paramCount ++ trials.flatMap Trial.calls)) status

namespace Schedule

variable {start : α} {trials : List (Trial α)} {status : Status}

theorem status_eq_bad_of_nil (schedule : Schedule start [] status) : status = .bad := by
  cases schedule
  rfl

theorem undone_of_mem_dropLast (schedule : Schedule start trials status) :
    ∀ trial ∈ trials.dropLast, trial.undone.isSome := by
  induction schedule with
  | exhausted | down | level | negligible => nofun
  | @rejected trial rest status undone remaining ih =>
      cases rest with
      | nil => nofun
      | cons next rest =>
          intro other member
          rcases List.mem_cons.mp member with rfl | member
          · exact undone
          · exact ih other member

theorem kept_iff (schedule : Schedule start trials status) :
    (∃ trial ∈ trials.getLast?, trial.undone = none) ↔
      status = .down ∨ status = .level ∧ ∃ trial ∈ trials.getLast?, trial.Falls start := by
  induction schedule with
  | exhausted => simp
  | down kept => simp [kept]
  | level kept falls => simp [kept, falls]
  | @negligible trial undone rises =>
      have taken : trial.undone ≠ none := Option.isSome_iff_ne_none.mp undone
      simp [taken, rises]
  | @rejected trial rest status undone remaining ih =>
      cases rest with
      | nil =>
          have taken : trial.undone ≠ none := Option.isSome_iff_ne_none.mp undone
          simp [remaining.status_eq_bad_of_nil, taken]
      | cons next rest => rwa [List.getLast?_cons_cons]

end Schedule

section Trials

variable {host : Host α σ} {config : Config α} {before after : σ} {n : Nat}
  {equations : NormalEquations α n} {outer inner limit : Nat} {start damping : α}

theorem sendable_step (finiteZero : Scalar.isFinite (0 : α) = true)
    (finiteNeg : ∀ x : α, Scalar.isFinite x = true → Scalar.isFinite (-x) = true)
    {trial : Trial α} (sent : trial.delta = (equations.step damping).delta.toList) :
    trial.Sendable n := by
  have finite := isFinite_of_mem_step finiteZero equations damping
  rw [← sent] at finite
  refine ⟨by simp [sent], finite, ?_⟩
  intro change member
  obtain ⟨opposite, sent, rfl⟩ := List.mem_map.mp member
  exact finiteNeg opposite (finite opposite sent)

theorem falls_of_level {tolerance : α} {delta : List α} {sos : Option α}
    {undone : Option (Option α)} (judged : judge tolerance sos start = .ok .level) :
    Trial.Falls start ⟨delta, sos, undone⟩ := by
  obtain ⟨rise, risen, verdict⟩ := judge_eq_ok.mp judged
  obtain ⟨evaluated, falls⟩ := Verdict.ofRise_eq_level verdict
  obtain ⟨value, rfl, _⟩ := not_hasFailed evaluated
  exact ⟨value, rise, rfl, risen, falls⟩

theorem not_falls_of_negligible {tolerance : α} {delta : List α} {sos : Option α}
    {undone : Option (Option α)} (judged : judge tolerance sos start = .ok .negligible) :
    ¬ Trial.Falls start ⟨delta, sos, undone⟩ := by
  obtain ⟨rise, risen, verdict⟩ := judge_eq_ok.mp judged
  obtain ⟨_, rises⟩ := Verdict.ofRise_eq_negligible verdict
  rintro ⟨value, other, rfl, same, falls⟩
  cases Except.ok.inj (risen.symm.trans same)
  exact Bool.false_ne_true (rises.symm.trans falls)

/-- An attempt sends its step if there is one, and takes it back unless it is kept. -/
theorem attempt_records {ending : Option (State α × Status)}
    (returned : Returns (attempt host config equations outer start inner damping) before ending
      after) :
    ∃ tried : List (Trial α),
      (∀ earlier, Returns (attempt host.recorded config equations outer start inner damping)
        ⟨before, earlier⟩ ending ⟨after, earlier ++ tried.flatMap Trial.calls⟩) ∧
      Attempted config equations outer inner start damping tried ending := by
  have inverted := returns_attempt.mp returned
  simp only [returns_attempt]
  cases usable : (equations.step damping).isUsable with
  | false =>
      obtain ⟨rfl, rfl⟩ : ending = none ∧ after = before := by simpa [usable] using inverted
      exact ⟨[], by simp, .unusable usable⟩
  | true =>
      simp only [usable, ↓reduceIte] at inverted ⊢
      obtain ⟨verdict, judged, ends⟩ := inverted
      let delta := (equations.step damping).delta.toList
      let moved := host.nudge delta before
      let restored := host.nudge (delta.map Neg.neg) moved.state
      cases verdict with
      | down =>
          obtain ⟨rfl, rfl⟩ := ends
          refine ⟨[⟨delta, moved.value, none⟩], ?_, .tried rfl (.kept rfl (.inl rfl))⟩
          exact fun earlier => ⟨.down, judged, rfl, rfl⟩
      | level =>
          obtain ⟨rfl, rfl⟩ := ends
          refine ⟨[⟨delta, moved.value, none⟩], ?_,
            .tried rfl (.kept rfl (.inr ⟨rfl, falls_of_level judged⟩))⟩
          exact fun earlier => ⟨.level, judged, rfl, rfl⟩
      | negligible =>
          obtain ⟨rfl, rfl⟩ := ends
          refine ⟨[⟨delta, moved.value, some restored.value⟩], ?_,
            .tried rfl (.negligible rfl (not_falls_of_negligible judged))⟩
          refine fun earlier => ⟨.negligible, judged, rfl, ?_⟩
          simp [Trial.calls, delta, moved, restored]
      | rejected =>
          obtain ⟨rfl, rfl⟩ := ends
          refine ⟨[⟨delta, moved.value, some restored.value⟩], ?_, .tried rfl (.rejected rfl)⟩
          refine fun earlier => ⟨.rejected, judged, rfl, ?_⟩
          simp [Trial.calls, delta, moved, restored]

theorem trials_tries {ending : State α × Status}
    (returned : Returns (trials host config equations outer start limit inner damping) before
      ending after) :
    ∃ tried : List (Trial α),
      (∀ earlier, Returns (trials host.recorded config equations outer start limit inner damping)
        ⟨before, earlier⟩ ending ⟨after, earlier ++ tried.flatMap Trial.calls⟩) ∧
      Tries config equations outer start inner damping tried ending := by
  induction limit generalizing before inner damping with
  | zero => exact absurd returned not_returns_trials_zero
  | succ limit ih =>
      obtain ⟨found, middle, one, rest⟩ := returns_trials_succ.mp returned
      obtain ⟨first, firstRecorded, attempted⟩ := attempt_records one
      simp only [returns_trials_succ]
      cases found with
      | some final =>
          obtain ⟨rfl, rfl⟩ := rest
          exact ⟨first, fun earlier => ⟨some ending, _, firstRecorded earlier, rfl, rfl⟩,
            .ends attempted⟩
      | none =>
          simp only at rest
          split at rest
          · rename_i exhausted
            obtain ⟨rfl, rfl⟩ := rest
            refine ⟨first, fun earlier => ⟨none, _, firstRecorded earlier, ?_⟩,
              .exhausted attempted exhausted⟩
            simp only [exhausted, ↓reduceIte, and_self]
          · rename_i continues
            obtain ⟨later, laterRecorded, laterTries⟩ := ih rest
            refine ⟨first ++ later, fun earlier => ⟨none, _, firstRecorded earlier, ?_⟩,
              .boosted attempted (Bool.eq_false_iff.mpr continues) laterTries⟩
            simp only [continues, Bool.false_eq_true, ↓reduceIte]
            rw [List.flatMap_append, ← List.append_assoc]
            exact laterRecorded _

section Attempted

variable {tried : List (Trial α)}

theorem Attempted.sendable (finiteZero : Scalar.isFinite (0 : α) = true)
    (finiteNeg : ∀ x : α, Scalar.isFinite x = true → Scalar.isFinite (-x) = true)
    {ending : Option (State α × Status)}
    (attempted : Attempted config equations outer inner start damping tried ending) :
    ∀ trial ∈ tried, trial.Sendable n := by
  cases attempted with
  | unusable _ => nofun
  | tried sent _ => simpa using sendable_step finiteZero finiteNeg sent

/-- What an attempt leaves to do can follow its trial. -/
theorem Attempted.schedule (attempted : Attempted config equations outer inner start damping tried
    none) {rest : List (Trial α)} {status : Status} (schedule : Schedule start rest status) :
    Schedule start (tried ++ rest) status := by
  cases attempted with
  | unusable _ => exact schedule
  | tried _ judged =>
      cases judged with
      | rejected undone => exact .rejected undone schedule

variable {ending : State α × Status}

theorem Tries.sendable (finiteZero : Scalar.isFinite (0 : α) = true)
    (finiteNeg : ∀ x : α, Scalar.isFinite x = true → Scalar.isFinite (-x) = true)
    (tries : Tries config equations outer start inner damping tried ending) :
    ∀ trial ∈ tried, trial.Sendable n := by
  induction tries with
  | ends attempted | exhausted attempted _ => exact attempted.sendable finiteZero finiteNeg
  | boosted attempted _ _ ih =>
      exact List.forall_mem_append.mpr ⟨attempted.sendable finiteZero finiteNeg, ih⟩

theorem Tries.schedule (tries : Tries config equations outer start inner damping tried ending) :
    Schedule start tried ending.2 := by
  induction tries with
  | ends attempted =>
      cases attempted with
      | tried _ judged =>
          cases judged with
          | kept kept status =>
              rcases status with rfl | ⟨rfl, falls⟩
              · exact .down kept
              · exact .level kept falls
          | negligible undone rises => exact .negligible undone rises
  | exhausted attempted _ => simpa using attempted.schedule .exhausted
  | boosted attempted _ _ ih => exact attempted.schedule ih

end Attempted

theorem trials_record (finiteZero : Scalar.isFinite (0 : α) = true)
    (finiteNeg : ∀ x : α, Scalar.isFinite x = true → Scalar.isFinite (-x) = true)
    {ending : State α × Status}
    (returned : Returns (trials host config equations outer start limit inner damping) before
      ending after) :
    ∃ tried : List (Trial α), (∀ trial ∈ tried, trial.Sendable n) ∧
      (∀ earlier, Returns (trials host.recorded config equations outer start limit inner damping)
        ⟨before, earlier⟩ ending ⟨after, earlier ++ tried.flatMap Trial.calls⟩) ∧
      Schedule start tried ending.2 := by
  obtain ⟨tried, recorded, tries⟩ := trials_tries returned
  exact ⟨tried, tries.sendable finiteZero finiteNeg, recorded, tries.schedule⟩

end Trials

/-- The calls of an iteration that returns, against any host and whatever the
arithmetic, as long as zero is finite and the opposite of what is finite is. -/
theorem iterate_disciplined (finiteZero : Scalar.isFinite (0 : α) = true)
    (finiteNeg : ∀ x : α, Scalar.isFinite x = true → Scalar.isFinite (-x) = true)
    (host : Host α σ) (config : Config α) (limit : Nat) (state final : State α)
    (status : Status) (before after : σ)
    (returned : Returns (iterateWithin host config limit state) before (final, status) after) :
    ∃ calls, Returns (iterateWithin host.recorded config limit state) ⟨before, []⟩
        (final, status) ⟨after, calls⟩ ∧
      Disciplined config calls status := by
  have inverted := returns_iterateWithin.mp returned
  simp only [returns_iterateWithin]
  have evaluated : (host.recorded.evaluate ⟨before, []⟩).value = (host.evaluate before).value := rfl
  rw [evaluated, state_evaluate_recorded]
  simp only at inverted
  split at inverted
  · rename_i failed
    obtain ⟨ends, rfl⟩ := inverted
    cases ends
    refine ⟨_, ?_, .startFailed failed⟩
    simp [failed]
  · rename_i succeeded
    obtain ⟨start, found, built, middle, building, rest⟩ := inverted
    obtain ⟨_, same, finite⟩ := not_hasFailed (Bool.eq_false_iff.mpr succeeded)
    cases Option.some.inj (found.symm.trans same)
    have buildingRecorded := returns_buildJacobian_recorded host
      ([] ++ [.evaluate (host.evaluate before).value]) building
    cases built with
    | false =>
        obtain ⟨ends, rfl⟩ := rest
        cases ends
        refine ⟨[.evaluate (some start), .buildJacobian false], ?_, .jacobianFailed finite⟩
        rw [if_neg succeeded]
        refine ⟨start, found, false, _, buildingRecorded, ?_⟩
        simp [found]
    | true =>
        obtain ⟨jacobian, residuals, gathered, fetching, trying⟩ := rest
        obtain ⟨tried, sendable, triedRecorded, schedule⟩ :=
          trials_record finiteZero finiteNeg trying
        refine ⟨_, ?_, .tried finite sendable schedule.undone_of_mem_dropLast schedule.kept_iff⟩
        rw [if_neg succeeded]
        refine ⟨start, found, true, _, buildingRecorded, ?_⟩
        refine ⟨jacobian, residuals, _, records_gather host _ _ _ fetching, ?_⟩
        simpa [found] using triedRecorded (.evaluate (some start) :: .buildJacobian true ::
          gathering config.pointCount config.paramCount)

/-- A host whose first trial is no improvement and whose second is. -/
def hesitant : Sample.Script Rat where
  jacobian := [[1]]
  residuals := [1]
  initial := [1]
  trials := [2, 1, 0]
  builds := [true]

def hesitantConfig : Config Rat where
  tolerance := 1 / 2
  paramCount := 1
  pointCount := 1
  initialDamping := 1
  maxDamping := 100
  boost := 2
  shrink := 1 / 2

theorem iterate_disciplined_hesitant :
    ∃ after, Returns (iterateWithin hesitant.host hesitantConfig 3 (.initial hesitantConfig))
        hesitant.start ({ damping := 1, outer := 1, inner := 2, sos := some 0 }, .down) after ∧
      ∃ calls, Returns (iterateWithin hesitant.host.recorded hesitantConfig 3
          (.initial hesitantConfig)) ⟨hesitant.start, []⟩
          ({ damping := 1, outer := 1, inner := 2, sos := some 0 }, .down) ⟨after, calls⟩ ∧
        Disciplined hesitantConfig calls .down := by
  refine ⟨⟨⟨[-1 / 3], [[-1 / 2], [1 / 2], [-1 / 3]], 1, 1, 3⟩, none⟩, ?_⟩
  have returned : Returns (iterateWithin hesitant.host hesitantConfig 3 (.initial hesitantConfig))
      hesitant.start ({ damping := 1, outer := 1, inner := 2, sos := some 0 }, .down)
      ⟨⟨[-1 / 3], [[-1 / 2], [1 / 2], [-1 / 3]], 1, 1, 3⟩, none⟩ :=
    ⟨by with_unfolding_all rfl, by with_unfolding_all rfl⟩
  exact ⟨returned, iterate_disciplined rfl (fun _ _ => rfl) _ _ _ _ _ _ _ _ returned⟩

end OpticTune.Solver
