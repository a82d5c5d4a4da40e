import OpticTune.Proofs.Adjust.Bench
import OpticTune.Proofs.Adjust.Session
import OpticTune.Proofs.Solver.Config
import OpticTune.Proofs.Solver.Watched
import OpticTune.Proofs.Steer.Independent
import OpticTune.Proofs.Steer.Stops

namespace OpticTune

open Act (Keeps Returns)
open Optics
open Solver (Config Host Measured SizesAgree)

/-! Sizes agree from the setup to the end.

The number of residuals is counted at setup, by the builder for an adjustment and by
the goals for a steered ray, and checked against what the solver is set up for. As
long as computing keeps that number, every iteration handles vectors and tables of
these sizes and reads nowhere outside, whatever fails on the way.
-/

variable {α τ : Type} {S R : ℕ}

namespace Solver

variable {σ : Type} [Scalar α]

/-- Where iterations lead that return, one after another. -/
inductive Reaches (host : Host α σ) (config : Config α) (state : State α) (before : σ) :
    State α → σ → Prop where
  | rests : Reaches host config state before state before
  | iterates {later middle answer after} : Reaches host config state before later middle →
      Returns (iterate host config later) middle answer after →
      Reaches host config state before answer.1 after

theorem Reaches.kept {host : Host α σ} {config : Config α} {state later : State α}
    {before after : σ} {holds : σ → Prop} (reached : Reaches host config state before later after)
    (kept : host.KeptWithin config.pointCount config.paramCount holds) (held : holds before) :
    holds after := by
  induction reached with
  | rests => exact held
  | iterates _ returned ih => exact (kept.iterate _).of_returns returned ih

end Solver

namespace Adjust

/-- A bench that holds residuals tells their number when it is asked for it, and
hands out so many. If they are `count`, no question changes their number; neither
does computing them anew after no ray was lost. -/
structure Lasting (tracer : Tracer α τ S R) (builder : ResidualBuilder α τ S R)
    (goodCount : ℕ) (held : τ → ℕ) (count : ℕ) : Prop where
  pointCount : ∀ system bench, (builder.pointCount system bench).1 = held bench ∧
    held (builder.pointCount system bench).2 = held bench
  residuals : ∀ system ⦃bench⦄, held bench = count →
    (builder.residuals system bench).1.length = count ∧
      held (builder.residuals system bench).2 = count
  sos : ∀ system ⦃bench⦄, held bench = count → held (builder.sos system bench).2 = count
  rms : ∀ system ⦃bench⦄, held bench = count → held (builder.rms system bench).2 = count
  buildRays : ∀ system ⦃bench⦄, held bench = count →
    held (tracer.buildRays false system bench).2 = count
  updateOrientations : ∀ system ⦃bench⦄, held bench = count →
    held (tracer.updateOrientations system bench).2 = count
  compute : ∀ system ⦃bench⦄, held bench = count →
    goodCount ≤ (tracer.buildRays false system bench).1 →
    held (builder.compute system (tracer.buildRays false system bench).2).2 = count

namespace Lasting

variable [Scalar α] {tracer : Tracer α τ S R} {builder : ResidualBuilder α τ S R}
  {goodCount count : ℕ} {held : τ → ℕ} (lasting : Lasting tracer builder goodCount held count)

include lasting

theorem kept_problem (surfaces rays : List Adjustable) :
    (problem tracer builder surfaces rays goodCount).KeptBy
      fun store => held store.world.bench = count where
  apply delta := by
    have applies : Keeps (fun world => held world.bench = count)
        (apply tracer surfaces rays delta) := by
      intro world holds
      rw [bench_apply]
      split
      · exact lasting.updateOrientations _ holds
      · exact holds
    exact keeps_inWorld applies
  evaluate := by
    intro store holds
    change held (evaluate tracer builder goodCount store).state.world.bench = count
    by_cases lost : (tracer.buildRays false store.world.system store.world.bench).1 < goodCount
    · rw [(evaluate_lost tracer builder goodCount store lost).2]
      exact lasting.buildRays _ holds
    · rw [(evaluate_traced tracer builder goodCount store lost).2]
      have computed := lasting.compute store.world.system holds (not_lt.mp lost)
      exact lasting.rms _ (lasting.sos _ computed)
  residuals := keeps_inWorld fun world held => (lasting.residuals world.system held).2

theorem holding (surfaces rays : List Adjustable) (n : ℕ) :
    (problem tracer builder surfaces rays goodCount).Holding count n
      fun store => held store.world.bench = count where
  kept := (lasting.kept_problem surfaces rays).within n
  held store held := (lasting.residuals store.world.system held).1

end Lasting

variable [Scalar α] [Planar α] {tracer : Tracer α τ S R} {builder : ResidualBuilder α τ S R}
  {surfaces rays : List Adjustable} {options : Options α} {wavefrontGoal : Bool}
  {planned : Plan α} {rms : α} {world ready : World α τ S R} {held : τ → ℕ}

/-- The setup counts the residuals twice, and both counts are what the solver is set
up for. -/
theorem Lasting.counts
    (returned : Returns (plan tracer builder surfaces rays options wavefrontGoal) world
      (planned, rms) ready)
    (lasting : Lasting tracer builder planned.goodCount held planned.pointCount) :
    planned.config.pointCount = planned.pointCount ∧
      planned.pointCount = planned.goodCount * planned.goalCount ∧
      planned.config.paramCount = planned.adjustableCount ∧
      held ready.bench = planned.pointCount := by
  obtain ⟨found, measured, _, checked, made, rfl, rfl, good, goals, pointed, _, rfl⟩ :=
    of_returns_plan returned
  obtain ⟨points, params⟩ := Config.counts_of_make made
  let computed := (World.ask builder.compute measured).state
  let asked := (World.ask builder.pointCount computed).state
  have first : held computed.bench = planned.goodCount * planned.goalCount := by
    rw [good, goals, ← checked]
    exact (lasting.pointCount computed.system computed.bench).1.symm
  have second : held asked.bench = planned.goodCount * planned.goalCount :=
    (lasting.pointCount computed.system computed.bench).2.trans first
  have counted : planned.pointCount = planned.goodCount * planned.goalCount :=
    (pointed.trans (lasting.pointCount asked.system asked.bench).1).trans second
  have third : held (World.ask builder.pointCount asked).state.bench = planned.pointCount :=
    ((lasting.pointCount asked.system asked.bench).2.trans second).trans counted.symm
  refine ⟨?_, counted, params, lasting.rms _ third⟩
  rw [points, counted, good, goals]

/-- Every tick starts where the sizes agree. -/
theorem Lasting.sizesAgree
    (returned : Returns (plan tracer builder surfaces rays options wavefrontGoal) world
      (planned, rms) ready)
    (lasting : Lasting tracer builder planned.goodCount held planned.pointCount) (ticks : ℕ) :
    let session := (Session.start planned ready rms).after tracer builder ticks
    SizesAgree (problem tracer builder planned.surfaces planned.rays planned.goodCount)
      planned.steps planned.config session.fit.solver session.fit.host := by
  intro session
  obtain ⟨points, _, params, begun⟩ := lasting.counts returned
  have reached : held session.world.bench = planned.pointCount :=
    Session.world_after_kept (fun world => held world.bench = planned.pointCount)
      (lasting.kept_problem planned.surfaces planned.rays)
      (fun world holds => lasting.rms world.system holds) (Session.start planned ready rms) begun
      ticks
  exact (lasting.holding _ _ _).sizesAgree points params planned.steps _ reached

end Adjust

namespace Steer

variable [Scalar α] {pass : Pass α R} {tracer : Tracer α τ S R} {aim : Aim α}

/-- Whatever the tracer answers, there is a residual for every goal. -/
theorem holding_problem (tracer : Tracer α τ S R) (fitting : aim.values.length = aim.goals.length)
    (n : ℕ) : (problem tracer aim).Holding aim.goals.length n
      fun course => course.residuals.length = aim.goals.length where
  kept := (kept_residuals tracer fitting).within n
  held _ holds := holds

/-- Every iteration of a ray starts where the sizes agree. -/
theorem sizesAgree_of_make {adjusted : List RayAttribute} {goals : List TraceAttribute}
    {goalValues : List (List α)} {maxIterations : ℤ} {before planned : World α τ S R}
    (returned : Returns (plan tracer adjusted goals goalValues maxIterations) before pass planned)
    {ray : Fin R}
    (made : Aim.make (ray.val : ℤ) pass.adjusted pass.goals (pass.goalValues.get ray) = .ok aim)
    {start : World α τ S R} {state : Solver.State α}
    {reached : Measured α (Course α τ S R) aim.goals.length aim.adjusted.length}
    (reaches : Solver.Reaches (Pass.host tracer aim) pass.config (.initial pass.config)
      (Solver.Problem.initial (Course.initial aim start)) state reached) :
    pass.config.pointCount = pass.goals.length ∧ pass.config.paramCount = pass.adjusted.length ∧
      SizesAgree (problem tracer aim) (steps aim defaultStep) pass.config state reached := by
  obtain ⟨_, _, rows, config, usual, _, rfl, _⟩ := returns_plan.mp returned
  obtain ⟨_, _, fits, aimed⟩ := Aim.make_eq_ok.mp made
  have sameGoals : aim.goals = goals := by rw [aimed]
  have sameAdjusted : aim.adjusted = adjusted := by rw [aimed]
  have fitting : aim.values.length = aim.goals.length := by
    rw [aimed]
    exact fits
  obtain ⟨points, params⟩ := Config.counts_of_make usual
  have counts := And.intro points params
  rw [← sameGoals] at points
  rw [← sameAdjusted] at params
  have holding := holding_problem tracer fitting aim.adjusted.length
  have kept : (Pass.host tracer aim).KeptWithin config.pointCount config.paramCount
      fun measured => measured.problem.residuals.length = aim.goals.length := by
    rw [points, params]
    exact holding.kept.host (steps aim defaultStep)
  have held := reaches.kept kept (length_initial fitting start)
  exact ⟨counts.1, counts.2, holding.sizesAgree points params _ _ held⟩

end Steer

/-- At every iteration of an adjustment that was set up over a builder whose
residuals keep their number, and at every iteration of a steered ray, the Jacobian,
the residuals, the changes sent and the places read agree in size with the settings,
whatever fails on the way. The sizes are those of the setup: good rays times goals by
adjustables, and goals by steered start values. -/
theorem iterations_sizesAgree [Scalar α] [Planar α] (tracer : Tracer α τ S R) :
    (∀ (builder : ResidualBuilder α τ S R) (surfaces rays : List Adjustable) (options : Options α)
      (wavefrontGoal : Bool) (planned : Adjust.Plan α) (rms : α) (world ready : World α τ S R)
      (held : τ → ℕ),
      Returns (Adjust.plan tracer builder surfaces rays options wavefrontGoal) world (planned, rms)
        ready →
      Adjust.Lasting tracer builder planned.goodCount held planned.pointCount →
      ∀ ticks, let session := (Adjust.Session.start planned ready rms).after tracer builder ticks
        planned.config.pointCount = planned.goodCount * planned.goalCount ∧
        planned.config.paramCount = planned.surfaces.length + planned.rays.length ∧
        SizesAgree (Adjust.problem tracer builder planned.surfaces planned.rays planned.goodCount)
          planned.steps planned.config session.fit.solver session.fit.host) ∧
    (∀ (adjusted : List RayAttribute) (goals : List TraceAttribute) (goalValues : List (List α))
      (maxIterations : ℤ) (before planned start : World α τ S R) (pass : Steer.Pass α R)
      (ray : Fin R) (aim : Steer.Aim α) (state : Solver.State α)
      (reached : Measured α (Steer.Course α τ S R) aim.goals.length aim.adjusted.length),
      Returns (Steer.plan tracer adjusted goals goalValues maxIterations) before pass planned →
      Steer.Aim.make (ray.val : ℤ) pass.adjusted pass.goals (pass.goalValues.get ray) = .ok aim →
      Solver.Reaches (Steer.Pass.host tracer aim) pass.config (.initial pass.config)
        (Solver.Problem.initial (Steer.Course.initial aim start)) state reached →
      pass.config.pointCount = pass.goals.length ∧
        pass.config.paramCount = pass.adjusted.length ∧
        SizesAgree (Steer.problem tracer aim) (Steer.steps aim Steer.defaultStep) pass.config state
          reached) := by
  constructor
  · intro builder surfaces rays options wavefrontGoal planned rms world ready held returned lasting
      ticks
    obtain ⟨points, counted, params, _⟩ := lasting.counts returned
    exact ⟨points.trans counted, params, lasting.sizesAgree returned ticks⟩
  · intro adjusted goals goalValues maxIterations before planned start pass ray aim state reached
      returned made reaches
    exact Steer.sizesAgree_of_make returned made reaches

/-- A bench that answers by the tables holds residuals for the rays that were good at
the last full build. -/
theorem Optics.Appraisal.Answers.lasting {tracer : Tracer ℚ τ S R}
    {builder : ResidualBuilder ℚ τ S R} {appraisal : Appraisal S R} {seen : τ → Seen S R}
    (answers : appraisal.Answers tracer builder seen)
    (goodCount count : ℕ) :
    Adjust.Lasting tracer builder goodCount
      (fun bench => (seen bench).good.card * appraisal.goalCount) count where
  pointCount system bench := by
    simp only [answers.pointCount.answer, answers.pointCount.leaves]
    exact ⟨appraisal.length_residuals _ _, rfl⟩
  residuals system bench holds := by
    simp only [answers.residuals.answer, answers.residuals.leaves]
    exact ⟨(appraisal.length_residuals _ _).trans holds, holds⟩
  sos system bench holds := by
    simp only [answers.sos.leaves]
    exact holds
  rms system bench holds := by
    simp only [answers.rms.leaves]
    exact holds
  buildRays system bench holds := by
    simp only [(answers.buildRays false).leaves]
    exact holds
  updateOrientations system bench holds := by
    simp only [answers.updateOrientations]
    exact holds
  compute system bench holds _ := by
    simp only [answers.compute.leaves, (answers.buildRays false).leaves]
    exact holds

theorem iterations_sizesAgree_edge :
    (∃ planned rms ready,
      Returns (Adjust.edgePlan []) (Adjust.edgeWorld (S := 1) 1) (planned, rms) ready ∧
      let session := (Adjust.Session.start planned ready rms).after edgeTracer edge.builder 2
      SizesAgree (Adjust.problem edgeTracer edge.builder planned.surfaces planned.rays
        planned.goodCount) planned.steps planned.config session.fit.solver session.fit.host) ∧
    ∃ aim, Steer.Aim.make 0 [.x] [.xl] [(2 : ℚ)] = .ok aim ∧
      SizesAgree (Steer.problem (Steer.lawful fun _ : Fin 1 => Steer.farSide) aim)
        (Steer.steps aim Steer.defaultStep) Steer.farPass.config (.initial Steer.farPass.config)
        (Solver.Problem.initial (Steer.Course.initial aim ⟨Steer.only Steer.bothSides 0, ()⟩) :
          Measured ℚ _ aim.goals.length aim.adjusted.length) := by
  obtain ⟨⟨planned, rms⟩, ready, returned⟩ : ∃ answer after,
      Returns (Adjust.edgePlan []) (Adjust.edgeWorld (S := 1) 1) answer after :=
    Act.exists_returns (by decide +kernel)
  let planar := Adjust.axial
  obtain ⟨_, _, sizes⟩ := (iterations_sizesAgree edgeTracer).1 _ _ _ _ _ _ _ _ _ _ returned
    (edge_answers.lasting planned.goodCount planned.pointCount) 2
  have made : Returns (Steer.plan (Steer.lawful fun _ : Fin 1 => Steer.farSide) [.x] [.xl] [[2]] 1)
      ⟨Steer.only Steer.bothSides 0, ()⟩ Steer.farPass ⟨Steer.only Steer.bothSides 0, ()⟩ :=
    Steer.returns_plan.mpr ⟨by decide, by decide, rfl, Steer.farPass.config,
      by with_unfolding_all rfl, by decide +kernel, rfl, rfl⟩
  obtain ⟨_, _, steered⟩ := (iterations_sizesAgree (Steer.lawful fun _ : Fin 1 => Steer.farSide)).2
    _ _ _ _ _ _ _ _ (0 : Fin 1) _ _ _ made rfl .rests
  exact ⟨⟨planned, rms, ready, returned, sizes⟩, _, rfl, steered⟩

end OpticTune
