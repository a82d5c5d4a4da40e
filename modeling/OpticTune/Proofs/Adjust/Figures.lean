import OpticTune.Proofs.Adjust.Reachable
import OpticTune.Proofs.Solver.LastEvaluated

namespace OpticTune.Adjust

open Act (Returns)
open Optics
open Solver (Config Fit Landscape Problem Status)

/-! The figures an adjustment reports.

On a bench that answers by the tables, the rms reported after a tick is that of the
tables, and never above the one before, with one exception: a tick that ends because
a parameter can be evaluated one step forward and not one step back moves the tables
back without an evaluation, and reports the rms of the tables one step forward.
-/

variable {τ : Type} {S R : ℕ} {tracer : Tracer ℚ τ S R} {builder : ResidualBuilder ℚ τ S R}
  {appraisal : Appraisal S R} {seen : τ → Seen S R} {good : Finset (Fin R)}

theorem card_inter_lt_iff {good traced : Finset (Fin R)} :
    (good ∩ traced).card < good.card ↔ ¬ good ⊆ traced := by
  rw [← Finset.inter_eq_left, ← not_le, not_iff_not]
  constructor
  · exact fun large => Finset.eq_of_subset_of_card_le Finset.inter_subset_left large
  · exact fun same => same.symm ▸ le_rfl

section Evaluated

variable (buildRays : (tracer.buildRays false).Shows seen (appraisal.buildRays false))
  (compute : builder.compute.Shows seen appraisal.builder.compute)
  (sos : builder.sos.Shows seen appraisal.builder.sos)
  (rms : ∀ system bench, seen (builder.rms system bench).2 = seen bench)

include buildRays compute sos rms

/-- An evaluation answers with the sum of squares of the tables, and its figures are of
them. One that loses a good ray fails, and leaves the figures alone. -/
theorem evaluate_shown {store : Store ℚ τ S R} (sees : (seen store.world.bench).good = good) :
    let system := store.world.system
    let evaluated := evaluate tracer builder good.card store
    evaluated.value =
        (if good ⊆ appraisal.traces system then some (appraisal.sos system good) else none) ∧
      evaluated.state.world.system = system ∧
      seen evaluated.state.world.bench =
        if good ⊆ appraisal.traces system then ⟨good, system⟩ else seen store.world.bench := by
  intro system evaluated
  have traced := buildRays.answer system store.world.bench
  have built := buildRays.leaves system store.world.bench
  simp only [Appraisal.buildRays, Bool.false_eq_true, ↓reduceIte, sees] at traced built
  by_cases whole : good ⊆ appraisal.traces system
  · have kept : ¬ (tracer.buildRays false system store.world.bench).1 < good.card := by
      rw [traced, card_inter_lt_iff, not_not]
      exact whole
    obtain ⟨value, state⟩ := evaluate_traced tracer builder good.card store kept
    have computed : seen (builder.compute system
        (tracer.buildRays false system store.world.bench).2).2 = ⟨good, system⟩ := by
      rw [compute.leaves, built, ← sees]
      rfl
    rw [if_pos whole, if_pos whole]
    change evaluated.value = _ at value
    change evaluated.state = _ at state
    rw [value, state]
    refine ⟨?_, rfl, (rms _ _).trans ((sos.leaves _ _).trans computed)⟩
    rw [sos.answer, computed]
    rfl
  · have lost : (tracer.buildRays false system store.world.bench).1 < good.card := by
      rw [traced, card_inter_lt_iff]
      exact whole
    obtain ⟨value, state⟩ := evaluate_lost tracer builder good.card store lost
    rw [if_neg whole, if_neg whole]
    change evaluated.value = _ at value
    change evaluated.state = _ at state
    rw [value, state]
    exact ⟨rfl, rfl, built⟩

end Evaluated

section Problem

variable {surfaces rays : List Adjustable}

/-- What an adjustment finds around some tables: an evaluation fails where one of
the good rays is lost. -/
def around (appraisal : Appraisal S R) (good : Finset (Fin R)) (surfaces rays : List Adjustable)
    (m : ℕ) (base : OpticalSystem ℚ S R) : Landscape ℚ m (surfaces.length + rays.length) where
  sos place :=
    let system := shifted surfaces rays (List.ofFn place) base
    if good ⊆ appraisal.traces system then some (appraisal.sos system good) else none
  residuals place i := (appraisal.residuals (shifted surfaces rays (List.ofFn place) base) good).getD i 0

section Around

variable {base : OpticalSystem ℚ S R} {place : Fin (surfaces.length + rays.length) → ℚ}

theorem sos_around
    (whole : good ⊆ appraisal.traces (shifted surfaces rays (List.ofFn place) base)) (m : ℕ) :
    (around appraisal good surfaces rays m base).sos place =
      some (appraisal.sos (shifted surfaces rays (List.ofFn place) base) good) :=
  if_pos whole

theorem sos_around_none
    (lost : ¬ good ⊆ appraisal.traces (shifted surfaces rays (List.ofFn place) base)) (m : ℕ) :
    (around appraisal good surfaces rays m base).sos place = none :=
  if_neg lost

theorem sos_around_zero (whole : good ⊆ appraisal.traces base) (m : ℕ) :
    (around appraisal good surfaces rays m base).sos 0 = some (appraisal.sos base good) := by
  have still : shifted surfaces rays
      (List.ofFn (0 : Fin (surfaces.length + rays.length) → ℚ)) base = base := shifted_zero base
  rw [← still] at whole
  rw [sos_around whole, still]

theorem of_sos_around {m : ℕ} {sos : ℚ}
    (evaluates : (around appraisal good surfaces rays m base).sos place = some sos) :
    good ⊆ appraisal.traces (shifted surfaces rays (List.ofFn place) base) ∧
      appraisal.sos (shifted surfaces rays (List.ofFn place) base) good = sos := by
  by_cases whole : good ⊆ appraisal.traces (shifted surfaces rays (List.ofFn place) base)
  · exact ⟨whole, Option.some.inj ((sos_around whole m).symm.trans evaluates)⟩
  · exact absurd ((sos_around_none whole m).symm.trans evaluates) nofun

end Around

theorem tracks_problem (answers : appraisal.Answers tracer builder seen) (m : ℕ)
    (base : OpticalSystem ℚ S R) :
    (problem tracer builder surfaces rays good.card).Tracks
      (around appraisal good surfaces rays m base)
      fun held figured store =>
        store.world.system = shifted surfaces rays (List.ofFn held) base ∧
          seen store.world.bench =
            ⟨good, shifted surfaces rays (List.ofFn figured) base⟩ where
  apply := by
    rintro held figured store ⟨system, sees⟩ delta
    constructor
    · change (apply tracer surfaces rays (List.ofFn delta) store.world).state.system = _
      rw [system_apply, system, shifted_shifted, Solver.amounts_ofFn]
    · change seen (apply tracer surfaces rays (List.ofFn delta) store.world).state.bench = _
      rw [bench_apply]
      split
      · rw [answers.updateOrientations, sees]
      · exact sees
  evaluate := by
    rintro held figured store ⟨system, sees⟩
    have leaves (system : OpticalSystem ℚ S R) (bench : τ) :
        seen (builder.rms system bench).2 = seen bench := answers.rms.leaves system bench
    obtain ⟨value, stays, shown⟩ := evaluate_shown (answers.buildRays false) answers.compute
      answers.sos leaves (congrArg Seen.good sees)
    change (evaluate tracer builder good.card store).value = _ ∧
      (evaluate tracer builder good.card store).state.world.system = _ ∧
      seen (evaluate tracer builder good.card store).state.world.bench = _
    rw [system] at value stays shown
    refine ⟨value, stays, ?_⟩
    by_cases whole : good ⊆ appraisal.traces (shifted surfaces rays (List.ofFn held) base)
    · rw [shown, if_pos whole, sos_around whole m]
      rfl
    · rw [shown, if_neg whole, sees, sos_around_none whole m]
      rfl
  residuals := by
    rintro held figured store ⟨system, sees⟩
    refine ⟨system, ?_⟩
    exact (answers.residuals.leaves store.world.system store.world.bench).trans sees

end Problem

namespace Session

variable {plan : Plan ℚ} {session final : Session ℚ τ S R plan} {status : Status}

/-- The tables with one parameter a step forward. -/
def stepped (session : Session ℚ τ S R plan) (j : Fin plan.adjustableCount) :
    OpticalSystem ℚ S R :=
  shifted plan.surfaces plan.rays (List.ofFn (Pi.single j (plan.steps.get j))) session.system

/-- The session ended at a parameter that can be evaluated one step forward and not
one step back. -/
structure Slipped (appraisal : Appraisal S R) (good : Finset (Fin R))
    (session : Session ℚ τ S R plan) (j : Fin plan.adjustableCount) : Prop where
  status : session.status = some .bad
  slips : (around appraisal good plan.surfaces plan.rays plan.pointCount session.system).Slips
    plan.steps 0 j

/-- The figures of the bench and the rms reported are those of some tables. -/
structure Figured (appraisal : Appraisal S R) (seen : τ → Seen S R) (good : Finset (Fin R))
    (session : Session ℚ τ S R plan) (system : OpticalSystem ℚ S R) : Prop where
  seen : seen session.world.bench = ⟨good, system⟩
  rms : session.rms = appraisal.rms system good

/-- Which tables the figures are of. -/
structure Accounted (appraisal : Appraisal S R) (seen : τ → Seen S R) (good : Finset (Fin R))
    (session : Session ℚ τ S R plan) : Prop where
  whole : good ⊆ appraisal.traces session.system
  steady : (∀ j, ¬ session.Slipped appraisal good j) →
    session.Figured appraisal seen good session.system
  slipped : ∀ j, session.Slipped appraisal good j →
    session.Figured appraisal seen good (session.stepped j)

theorem not_slipped_of_running (running : session.ending = none) (j : Fin plan.adjustableCount) :
    ¬ session.Slipped appraisal good j := by
  intro slipped
  rw [ending, slipped.status] at running
  exact nomatch running

variable (answers : appraisal.Answers tracer builder seen)

include answers

theorem figured_reported {system : OpticalSystem ℚ S R}
    (sees : seen session.world.bench = ⟨good, system⟩) :
    (reported builder session).Figured appraisal seen good system where
  seen := by
    refine (answers.rms.leaves session.system session.world.bench).trans ?_
    rw [sees]
    rfl
  rms := by
    refine (answers.rms.answer session.system session.world.bench).trans ?_
    rw [sees]
    rfl

/-- A session that cannot slip is accounted for when its figures are of its tables. -/
theorem accounted_reported (whole : good ⊆ appraisal.traces session.system)
    (sees : seen session.world.bench = ⟨good, session.system⟩)
    (steady : ∀ j, ¬ session.Slipped appraisal good j) :
    (reported builder session).Accounted appraisal seen good where
  whole := whole
  steady _ := figured_reported answers sees
  slipped j slipped := absurd ⟨slipped.status, slipped.slips⟩ (steady j)

/-- A tick that iterates, once its iteration has returned. -/
theorem accounted_iterated
    (accepted : plan.config.Accepted plan.pointCount plan.adjustableCount)
    (count : plan.goodCount = good.card) (whole : good ⊆ appraisal.traces session.system)
    (figured : session.Figured appraisal seen good session.system) {solver : Solver.State ℚ}
    {after : Solver.Measured ℚ (Store ℚ τ S R) plan.pointCount plan.adjustableCount}
    (iterated : Returns (Solver.iterate (plan.host tracer builder) plan.config session.fit.solver)
      session.fit.host (solver, status) after) :
    let moved : Session ℚ τ S R plan := { session with
      fit := { host := after, solver }
      iteration := session.iteration + 1
      status := some status }
    (reported builder moved).Accounted appraisal seen good ∧
      ((∀ j, ¬ (reported builder moved).Slipped appraisal good j) →
        (reported builder moved).rms ≤ session.rms) := by
  intro moved
  have tracks : (problem tracer builder plan.surfaces plan.rays plan.goodCount).Tracks
      (around appraisal good plan.surfaces plan.rays plan.pointCount session.system) _ :=
    count ▸ tracks_problem answers plan.pointCount session.system
  have still : shifted plan.surfaces plan.rays
      (List.ofFn (0 : Fin plan.adjustableCount → ℚ)) session.system = session.system :=
    shifted_zero _
  have standing : seen session.world.bench = ⟨good, shifted plan.surfaces plan.rays
      (List.ofFn (0 : Fin plan.adjustableCount → ℚ)) session.system⟩ := by
    rw [still, figured.seen]
  rcases tracks.iterate ⟨still.symm, standing⟩ (sos_around_zero whole _)
    (appraisal.sos_nonneg _ _) accepted iterated with
    ⟨j, slips, bad, system, sees⟩ | ⟨reached, sos, ⟨system, sees⟩, evaluates, lower, stays⟩
  · have unmoved : moved.system = session.system := system.trans still
    have ahead : moved.stepped j = shifted plan.surfaces plan.rays
        (List.ofFn (0 + Pi.single j (plan.steps.get j))) session.system := by
      rw [zero_add, ← unmoved]
      rfl
    have sees : seen moved.world.bench = ⟨good, moved.stepped j⟩ := ahead ▸ sees
    have slipped : (reported builder moved).Slipped appraisal good j :=
      ⟨congrArg some bad, unmoved.symm ▸ slips⟩
    refine ⟨⟨unmoved.symm ▸ whole, fun steady => absurd slipped (steady j), fun i other => ?_⟩,
      fun steady => absurd slipped (steady j)⟩
    obtain rfl := slipped.slips.eq_of_first other.slips.earlier other.slips.not_measurable
    exact figured_reported answers sees
  · obtain ⟨whole, rfl⟩ := of_sos_around evaluates
    rw [← system] at whole lower
    have sees : seen moved.world.bench = ⟨good, moved.system⟩ :=
      sees.trans (congrArg (Seen.mk good) system.symm)
    have steady (j : Fin plan.adjustableCount) : ¬ moved.Slipped appraisal good j := by
      rintro ⟨status, slips⟩
      obtain ⟨rfl, never⟩ := stays (Option.some.inj status)
      have unmoved : moved.system = session.system := system.trans still
      exact never j (unmoved ▸ slips)
    refine ⟨accounted_reported answers whole sees steady, fun _ => ?_⟩
    rw [(figured_reported answers sees).rms, figured.rms]
    exact appraisal.rms_le _ _ _ lower

/-- A tick leaves a session that is accounted for, and the rms never rises unless it
slips. -/
theorem Accounted.tick (accepted : plan.config.Accepted plan.pointCount plan.adjustableCount)
    (count : plan.goodCount = good.card) (accounted : session.Accounted appraisal seen good)
    (returned : Returns (tick tracer builder) session status final) :
    final.Accounted appraisal seen good ∧
      ((∀ j, ¬ final.Slipped appraisal good j) → final.rms ≤ session.rms) := by
  replace returned := returns_tickOn.mp returned
  cases running : session.ending with
  | some ending =>
      rw [running] at returned
      obtain ⟨rfl, rfl⟩ := returned
      exact ⟨accounted, fun _ => le_rfl⟩
  | none =>
      rw [running] at returned
      have figured := accounted.steady (not_slipped_of_running running)
      simp only at returned
      split at returned
      · obtain ⟨rfl, rfl⟩ := returned
        have capped : (reported builder { session with
            iteration := session.iteration + 1
            status := some .max : Session ℚ τ S R plan }).Accounted appraisal seen good :=
          accounted_reported answers accounted.whole figured.seen fun j slipped =>
            nomatch slipped.status
        refine ⟨capped, fun steady => ?_⟩
        rw [(capped.steady steady).rms, figured.rms]
        exact le_rfl
      · obtain ⟨solver, fit, iterated, rfl⟩ := returned
        obtain ⟨after, returned, rfl⟩ := Fit.returns_iterate.mp iterated
        exact accounted_iterated answers accepted count accounted.whole figured returned

end Session

section Planned

variable [Planar ℚ] {surfaces rays : List Adjustable} {options : Options ℚ} {wavefrontGoal : Bool}
  {planned : Plan ℚ} {rms : ℚ} {world ready : World ℚ τ S R}

/-- Every tick of an adjustment returns and leaves it accounted for. -/
theorem exists_accounted (answers : appraisal.Answers tracer builder seen)
    (returned : Returns (plan tracer builder surfaces rays options wavefrontGoal) world
      (planned, rms) ready) (ticks : ℕ) :
    let session := (Session.start planned ready rms).after tracer builder
    (session ticks).Accounted appraisal seen (appraisal.traces world.system) ∧
      ∃ status,
        Returns (Session.tick tracer builder) (session ticks) status (session (ticks + 1)) := by
  intro session
  obtain ⟨good, counted, dependable, sees, figured⟩ := answers.planned returned
  have accepted := accepted_of_returns_plan returned counted
  have begun : (session 0).Stands world.system
      (fun bench => (seen bench).good = appraisal.traces world.system) 0 :=
    Session.stands_start returned (congrArg Seen.good sees)
  have ticked (ticks : ℕ) : ∃ status,
      Returns (Session.tick tracer builder) (session ticks) status (session (ticks + 1)) := by
    obtain ⟨status, final, ticked, _⟩ :=
      Session.exists_tick dependable accepted (begun.after dependable accepted ticks)
    obtain rfl : session (ticks + 1) = final := ticked.2
    exact ⟨status, ticked⟩
  refine ⟨?_, ticked ticks⟩
  induction ticks with
  | zero =>
      have unmoved : (session 0).system = world.system := system_of_returns_plan returned
      exact {
        whole := unmoved.symm ▸ Finset.Subset.refl _
        steady := fun _ => unmoved.symm ▸ ⟨sees, figured⟩
        slipped := fun j slipped => nomatch slipped.status }
  | succ ticks ih =>
      obtain ⟨status, ticked⟩ := ticked ticks
      exact (ih.tick answers accepted good ticked).1

/-- What an adjustment reports after any number of ticks. Where it starts can always
be evaluated. -/
theorem rms_reported (answers : appraisal.Answers tracer builder seen)
    (returned : Returns (plan tracer builder surfaces rays options wavefrontGoal) world
      (planned, rms) ready) (ticks : ℕ) :
    let good := appraisal.traces world.system
    let session := (Session.start planned ready rms).after tracer builder
    (∃ status,
      Returns (Session.tick tracer builder) (session ticks) status (session (ticks + 1))) ∧
    good ⊆ appraisal.traces (session ticks).system ∧
    (session ticks).progress.rms = (session ticks).rms ∧
    ((∀ j, ¬ (session ticks).Slipped appraisal good j) →
      (session ticks).rms = appraisal.rms (session ticks).system good) ∧
    (∀ j, (session ticks).Slipped appraisal good j →
      (session ticks).rms = appraisal.rms ((session ticks).stepped j) good) ∧
    ((∀ j, ¬ (session (ticks + 1)).Slipped appraisal good j) →
      (session (ticks + 1)).rms ≤ (session ticks).rms) := by
  intro good session
  obtain ⟨accounted, status, ticked⟩ := exists_accounted answers returned ticks
  obtain ⟨count, counted, _⟩ := answers.planned returned
  have falls := (accounted.tick answers (accepted_of_returns_plan returned counted) count ticked).2
  exact ⟨⟨status, ticked⟩, accounted.whole, rfl, fun steady => (accounted.steady steady).rms,
    fun j slipped => (accounted.slipped j slipped).rms, falls⟩

end Planned

theorem rms_reported_edge :
    ∃ planned rms ready,
      Returns (edgePlan []) (edgeWorld (S := 1) 1) (planned, rms) ready ∧
      let good := edge.traces (edgeWorld (S := 1) 1).system
      let session := (Session.start planned ready rms).after edgeTracer edge.builder
      good ⊆ edge.traces (session 2).system ∧
      ((∀ j, ¬ (session 2).Slipped edge good j) →
        (session 2).rms = edge.rms (session 2).system good) := by
  obtain ⟨⟨planned, rms⟩, ready, returned⟩ : ∃ answer after,
      Returns (edgePlan []) (edgeWorld (S := 1) 1) answer after :=
    Act.exists_returns (by decide +kernel)
  let planar := axial
  obtain ⟨_, whole, _, steady, _⟩ := rms_reported edge_answers returned 2
  exact ⟨planned, rms, ready, returned, whole, steady⟩

/-- What is reported after one tick, and the rms of the tables. -/
def edgeReport (start : ℚ) : Option (ℚ × ℚ) :=
  let world : World ℚ (Seen 1 1) 1 1 := edgeWorld start
  match edgePlan [] world with
  | { value := .ok (planned, rms), state := ready, .. } =>
      let session := (Session.start planned ready rms).after edgeTracer edge.builder 1
      some (session.progress.rms, edge.rms session.system (edge.traces world.system))
  | _ => none

/-- At the edge one step back is lost, and the rms is the one a step forward. -/
theorem edgeReport_edge : edgeReport (-1 / 2) = some (3 / 8, 1 / 2) := by
  decide +kernel

end OpticTune.Adjust
