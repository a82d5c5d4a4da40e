import OpticTune.Proofs.Steer.Turn

namespace OpticTune.Steer

open Act (Returns)
open Optics
open Solver (Fault)

/-! A pass from its setup to its summary.

What a pass comes to is what the turns of its rays come to: the summary counts
them, and measuring the rms at the end changes nothing.
-/

variable {α τ : Type} {S R : ℕ}

theorem countP_finRange (holds : Fin R → Bool) :
    (List.finRange R).countP holds = (Finset.univ.filter fun ray => holds ray).card := by
  rw [List.countP_eq_length_filter,
    ← List.toFinset_card_of_nodup ((List.nodup_finRange R).filter _)]
  congr 1
  ext ray
  simp

theorem get_exactVector {values : Vector α R} (rows : values.toList.length = R) (ray : Fin R) :
    (exactVector values.toList rows).get ray = values.get ray := by
  simp only [exactVector, Vector.get, Vector.toArray_toList]

/-- Measuring the rms only asks. -/
theorem system_finalRms (builder : Option (ResidualBuilder α τ S R)) (tracer : Tracer α τ S R)
    (world : World α τ S R) :
    ((Pass.finalRms tracer builder) world).state.system = world.system := by
  cases builder <;> rfl

variable [Scalar α]

/-- A pass set up and run; `verdict` says what the turn of every ray comes to. -/
def Steers (tracer : Tracer α τ S R) (builder : Option (ResidualBuilder α τ S R))
    (adjusted : List RayAttribute) (goals : List TraceAttribute) (goalValues : List (List α))
    (maxIterations : ℤ) (before : World α τ S R) (verdict : Fin R → Option Bool)
    (summary : Summary α) (after : World α τ S R) : Prop :=
  ∃ pass planned, Returns (plan tracer adjusted goals goalValues maxIterations) before pass planned ∧
    Returns (pass.run tracer (ExceptT.lift (Pass.finalRms tracer builder))) planned summary after ∧
    ∀ ray, ∃ start finish, Comes pass tracer ray planned start ∧
      Turn pass tracer ray start (verdict ray) finish

/-- What a pass reports if the turns of the rays come to `verdict`. -/
def Pass.summary (pass : Pass α R) (verdict : Fin R → Option Bool) (rms : Option α) :
    Summary α where
  rayCount := R
  goalCount := pass.goals.length
  startCount := pass.availableCount
  adjustedCount := (Finset.univ.filter fun ray => verdict ray = some true).card
  failedCount := (Finset.univ.filter fun ray => verdict ray = some false).card
  rms

section Steers

variable {pass : Pass α R} {tracer : Tracer α τ S R} {builder : Option (ResidualBuilder α τ S R)}
  {adjusted : List RayAttribute} {goals : List TraceAttribute} {goalValues : List (List α)}
  {maxIterations : ℤ} {before planned middle after : World α τ S R}
  {verdict : Fin R → Option Bool} {summary : Summary α}

theorem system_of_returns_plan
    (made : Returns (plan tracer adjusted goals goalValues maxIterations) before pass planned) :
    planned.system = before.system := by
  obtain ⟨-, -, -, -, -, -, -, rfl⟩ := returns_plan.mp made
  rfl

theorem foldl_after_map (verdict : Fin R → Option Bool) :
    let tally := ((List.finRange R).map verdict).foldl Tally.after Tally.none
    tally.adjusted = (Finset.univ.filter fun ray => verdict ray = some true).card ∧
      tally.failed = (Finset.univ.filter fun ray => verdict ray = some false).card := by
  simp only [foldl_after, Tally.none, Nat.zero_add, List.count, List.countP_map, countP_finRange]
  simp

theorem Steers.visited
    (steers : Steers tracer builder adjusted goals goalValues maxIterations before verdict summary
      after) :
    ∃ pass planned middle rms,
      Returns (plan tracer adjusted goals goalValues maxIterations) before pass planned ∧
      (∀ ray, ∃ start finish, Visited pass tracer planned middle ray start (verdict ray) finish) ∧
      middle.system.surfaces = planned.system.surfaces ∧ after.system = middle.system ∧
      summary = pass.summary verdict rms := by
  obtain ⟨pass, planned, made, ran, each⟩ := steers
  obtain ⟨_, middle, turns, rms, measured, rfl⟩ := returns_run.mp ran
  obtain ⟨found, rfl, visited⟩ := turns.exists_visited
  have same : verdict = found := by
    funext ray
    obtain ⟨start, finish, comes, turn⟩ := each ray
    obtain ⟨other, final, visited⟩ := visited ray
    cases comes.unique visited.comes
    exact (turn.unique visited.turn).1
  subst same
  obtain ⟨adjustedCount, failedCount⟩ := foldl_after_map verdict
  refine ⟨pass, planned, middle, rms, made, visited, turns.kept.1, ?_, ?_⟩
  · rw [← (Act.returns_lift.mp measured).2, system_finalRms]
  · rw [adjustedCount, failedCount, Pass.summary]

/-- Once set up, a pass that returns comes to something for every ray. -/
theorem exists_verdict
    (made : Returns (plan tracer adjusted goals goalValues maxIterations) before pass planned)
    (ran : Returns (pass.run tracer (ExceptT.lift (Pass.finalRms tracer builder))) planned summary
      after) :
    ∃ verdict,
      Steers tracer builder adjusted goals goalValues maxIterations before verdict summary after := by
  obtain ⟨_, middle, turns, -⟩ := returns_run.mp ran
  obtain ⟨verdict, -, visited⟩ := turns.exists_visited
  refine ⟨verdict, pass, planned, made, ran, fun ray => ?_⟩
  obtain ⟨start, finish, visited⟩ := visited ray
  exact ⟨start, finish, visited.comes, visited.turn⟩

theorem steers_of_turns {verdicts : List (Option Bool)}
    (made : Returns (plan tracer adjusted goals goalValues maxIterations) before pass planned)
    (turns : Turns pass tracer (List.finRange R) planned verdicts middle)
    (builder : Option (ResidualBuilder α τ S R)) :
    ∃ verdict summary after,
      Steers tracer builder adjusted goals goalValues maxIterations before verdict summary after := by
  have measured : Returns (ExceptT.lift (Pass.finalRms tracer builder) : ExceptT Fault _ _) middle
      _ _ := Act.returns_lift.mpr ⟨rfl, rfl⟩
  have ran := returns_run.mpr ⟨verdicts, middle, turns, _, measured, rfl⟩
  obtain ⟨verdict, steers⟩ := exists_verdict made ran
  exact ⟨verdict, _, _, steers⟩

theorem exists_steers
    (made : Returns (plan tracer adjusted goals goalValues maxIterations) before pass planned)
    (each : ∀ (ray : Fin R) (start : World α τ S R),
      start.system.surfaces = before.system.surfaces →
      start.system.rays.row ray = before.system.rays.row ray →
      ∃ verdict finish, Turn pass tracer ray start verdict finish)
    (builder : Option (ResidualBuilder α τ S R)) :
    ∃ verdict summary after,
      Steers tracer builder adjusted goals goalValues maxIterations before verdict summary after := by
  rw [← system_of_returns_plan made] at each
  obtain ⟨_, _, turns⟩ := exists_turns (List.nodup_finRange R) fun ray _ => each ray
  exact steers_of_turns made turns builder

/-- A pass changes nothing but the steered columns of the rays. -/
theorem Steers.kept
    (steers : Steers tracer builder adjusted goals goalValues maxIterations before verdict summary
      after) :
    after.system.surfaces = before.system.surfaces ∧
      ∀ ray j, (∀ start ∈ adjusted, start.column ≠ j) →
        after.system.rays.get ray j = before.system.rays.get ray j := by
  obtain ⟨pass, planned, middle, -, made, each, surfaces, afterIs, -⟩ := steers.visited
  obtain ⟨-, -, rows, config, usual, -, rfl, rfl⟩ := returns_plan.mp made
  refine ⟨by rw [afterIs, surfaces, World.state_ask], fun ray j unlisted => ?_⟩
  obtain ⟨start, finish, visited⟩ := each ray
  rw [afterIs]
  calc middle.system.rays.get ray j
      = finish.system.rays.get ray j := congrArg (·.get j) visited.finalRow
    _ = start.system.rays.get ray j := visited.turn.moved.columns j unlisted
    _ = (World.ask (tracer.buildRays true) before).state.system.rays.get ray j :=
        congrArg (·.get j) visited.row
    _ = before.system.rays.get ray j := by rw [World.state_ask]

end Steers

end OpticTune.Steer
