import OpticTune.Proofs.Adjust.Figures
import OpticTune.Proofs.Adjust.Steps
import OpticTune.Proofs.Solver.Agrees

namespace OpticTune.Adjust

open Optics
open Solver (Standing)

/-! Adjustments whose every step is decided by the tables.

Such an adjustment answers as the landscape around its tables does. What is set up,
too, is decided by the tables and the adjustables alone.
-/

variable {τ : Type} {S R : ℕ} {tracer : Tracer ℚ τ S R} {builder : ResidualBuilder ℚ τ S R}
  {appraisal : Appraisal S R} {seen : τ → Seen S R} {good : Finset (Fin R)}
  {surfaces rays : List Adjustable}

/-- A store stands where the host of a landscape around some tables stands, and its
residuals are the same. -/
structure Mirrors (appraisal : Appraisal S R) (seen : τ → Seen S R) (good : Finset (Fin R))
    (surfaces rays : List Adjustable) (base : OpticalSystem ℚ S R) (store : Store ℚ τ S R)
    (standing : Standing ℚ (surfaces.length + rays.length)) : Prop where
  system : store.world.system = shifted surfaces rays (List.ofFn standing.params) base
  good : (seen store.world.bench).good = good
  residuals : appraisal.residuals (seen store.world.bench).figured (seen store.world.bench).good =
    standing.residuals

/-- Nothing new is seen of the bench; the tables may have moved. -/
theorem Mirrors.of_seen {base : OpticalSystem ℚ S R} {store other : Store ℚ τ S R}
    {standing : Standing ℚ (surfaces.length + rays.length)}
    (mirrors : Mirrors appraisal seen good surfaces rays base store standing)
    {params : Fin (surfaces.length + rays.length) → ℚ}
    (system : other.world.system = shifted surfaces rays (List.ofFn params) base)
    (unseen : seen other.world.bench = seen store.world.bench) :
    Mirrors appraisal seen good surfaces rays base other { standing with params } where
  system := system
  good := (congrArg Seen.good unseen).trans mirrors.good
  residuals := by
    rw [unseen]
    exact mirrors.residuals

/-- The world in which the steps of an adjustment are measured. -/
def surveyed (tracer : Tracer ℚ τ S R) (builder : ResidualBuilder ℚ τ S R)
    (world : World ℚ τ S R) : World ℚ τ S R :=
  (World.ask (tracer.buildRays true) (World.ask builder.goalCount world).state).state

theorem ofFn_getD {entries : List ℚ} {m : ℕ} (count : entries.length = m) :
    (List.ofFn fun i : Fin m => entries.getD i 0) = entries := by
  subst count
  refine List.ext_getElem (by simp) fun i inside _ => ?_
  simp

end OpticTune.Adjust

namespace OpticTune.Optics.Appraisal

open Act (Keeps Returns)
open Adjust
open Solver (Config Landscape)

variable {τ : Type} {S R : ℕ} {tracer : Tracer ℚ τ S R} {builder : ResidualBuilder ℚ τ S R}
  {appraisal : Appraisal S R} {seen : τ → Seen S R} {surfaces rays : List Adjustable}

/-- All that a fit goes by is decided by the tables: which rays trace, how they meet
the surfaces, the residuals and the sum of squares. How many goals there are and
what rms is reported may be answered in any way. -/
structure Decides (appraisal : Appraisal S R) (tracer : Tracer ℚ τ S R)
    (builder : ResidualBuilder ℚ τ S R) (seen : τ → Seen S R) : Prop where
  buildRays : ∀ all, (tracer.buildRays all).Shows seen (appraisal.buildRays all)
  isGood : ∀ ray, (tracer.isGood ray).DecidedBy seen
  rayOutput : ∀ ray surface entry, (tracer.rayOutput ray surface entry).DecidedBy seen
  updateOrientations : ∀ system bench, seen (tracer.updateOrientations system bench).2 = seen bench
  pointCount : builder.pointCount.Shows seen appraisal.builder.pointCount
  residuals : builder.residuals.Shows seen appraisal.builder.residuals
  sos : builder.sos.Shows seen appraisal.builder.sos
  rms : ∀ system bench, seen (builder.rms system bench).2 = seen bench
  compute : builder.compute.Shows seen appraisal.builder.compute

namespace Decides

variable (decides : appraisal.Decides tracer builder seen)

include decides

theorem agrees_problem {good : Finset (Fin R)} {m : ℕ}
    (points : m = good.card * appraisal.goalCount) (base : OpticalSystem ℚ S R) :
    (problem tracer builder surfaces rays good.card).Agrees
      (around appraisal good surfaces rays m base).problem
      (Mirrors appraisal seen good surfaces rays base) where
  apply := by
    intro delta store standing mirrors
    have unseen : seen (Adjust.apply tracer surfaces rays delta store.world).state.bench =
        seen store.world.bench := by
      rw [bench_apply]
      split
      · exact decides.updateOrientations _ _
      · rfl
    refine ⟨rfl, mirrors.of_seen ?_ unseen⟩
    change (Adjust.apply tracer surfaces rays delta store.world).state.system = _
    rw [system_apply, mirrors.system, shifted_shifted]
    rfl
  evaluate := by
    intro store standing mirrors
    obtain ⟨value, stays, shown⟩ := evaluate_shown (decides.buildRays false) decides.compute
      decides.sos decides.rms mirrors.good
    rw [Landscape.value_evaluate, Landscape.state_evaluate]
    change (evaluate tracer builder good.card store).value = _ ∧
      Mirrors appraisal seen good surfaces rays base
        (evaluate tracer builder good.card store).state _
    rw [mirrors.system] at value stays shown
    refine ⟨value, ?_⟩
    by_cases whole :
        good ⊆ appraisal.traces (shifted surfaces rays (List.ofFn standing.params) base)
    · rw [if_pos whole] at shown
      rw [sos_around whole m]
      refine ⟨stays, by rw [shown], ?_⟩
      rw [shown]
      exact (ofFn_getD ((appraisal.length_residuals _ _).trans points.symm)).symm
    · rw [if_neg whole] at shown
      rw [sos_around_none whole m]
      exact mirrors.of_seen stays shown
  residuals := by
    intro store standing mirrors
    constructor
    · exact (decides.residuals.answer _ _).trans mirrors.residuals
    · exact mirrors.of_seen mirrors.system (decides.residuals.leaves _ _)

section Setup

variable {measured : World ℚ τ S R}

/-- What is found once the steps are measured. -/
theorem figured {good : Finset (Fin R)} (sees : (seen measured.bench).good = good) :
    let computed := (World.ask builder.compute measured).state
    let checked := World.ask builder.pointCount computed
    let pointed := World.ask builder.pointCount checked.state
    let figured := World.ask builder.rms pointed.state
    checked.value = good.card * appraisal.goalCount ∧
      pointed.value = good.card * appraisal.goalCount ∧
      figured.state.system = measured.system ∧
      seen figured.state.bench = ⟨good, measured.system⟩ := by
  intro computed checked pointed figured
  have computes : seen computed.bench = ⟨good, measured.system⟩ := by
    rw [← sees]
    exact decides.compute.leaves _ _
  have checks : seen checked.state.bench = ⟨good, measured.system⟩ :=
    (decides.pointCount.leaves _ _).trans computes
  have points : seen pointed.state.bench = ⟨good, measured.system⟩ :=
    (decides.pointCount.leaves _ _).trans checks
  refine ⟨?_, ?_, rfl, (decides.rms _ _).trans points⟩
  · refine (decides.pointCount.answer _ _).trans ?_
    rw [computes]
    exact appraisal.length_residuals _ _
  · refine (decides.pointCount.answer _ _).trans ?_
    rw [checks]
    exact appraisal.length_residuals _ _

theorem sees_surveyed (world : World ℚ τ S R) :
    (seen (surveyed tracer builder world).bench).good = appraisal.traces world.system :=
  congrArg Seen.good ((decides.buildRays true).leaves _ _)

variable [Planar ℚ] {options : Options ℚ} {wavefrontGoal : Bool} {planned : Plan ℚ} {rms : ℚ}
  {world ready : World ℚ τ S R}

theorem measures (world : World ℚ τ S R) {found : List ℚ}
    (returned : Returns (adjustmentSteps tracer surfaces rays options.step)
      (surveyed tracer builder world) found measured) :
    World.Alike seen (surveyed tracer builder world) measured :=
  (keeps_adjustmentSteps (fun ray => (decides.isGood ray).keeps _)
    (fun ray surface entry => (decides.rayOutput ray surface entry).keeps _) surfaces rays
    options.step).of_returns returned ⟨rfl, rfl⟩

theorem sees_ready
    (returned : Returns (plan tracer builder surfaces rays options wavefrontGoal) world
      (planned, rms) ready) :
    seen ready.bench = ⟨appraisal.traces world.system, world.system⟩ := by
  obtain ⟨found, measured, stepped, _, _, _, _, _, _, _, _, rfl⟩ := of_returns_plan returned
  have alike := decides.measures world stepped
  have sees := (congrArg Seen.good alike.2).symm.trans (decides.sees_surveyed world)
  obtain ⟨_, _, _, figured⟩ := decides.figured sees
  rw [figured, ← alike.1]
  rfl

/-- All that a plan depends on. -/
theorem exists_returns_plan {goodCount goalCount : ℕ}
    (goods : (appraisal.traces world.system).card = goodCount)
    (goals : (World.ask builder.goalCount world).value = goalCount) :
    (∃ rms ready, Returns (plan tracer builder surfaces rays options wavefrontGoal) world
        (planned, rms) ready) ↔
      ¬ goalCount < 1 ∧ ¬ surfaces.length + rays.length < 1 ∧ ¬ goodCount < 1 ∧
        goodCount * appraisal.goalCount = goodCount * goalCount ∧
        ∃ steps config,
          Stepped tracer (surveyed tracer builder world) options.step surfaces rays steps ∧
          Config.usual (surfaces.length + rays.length : ℕ) (goodCount * goalCount : ℕ)
            options.tolerance .adjustment = .ok config ∧
          planned = {
            options, surfaces, rays, steps, config, wavefrontGoal, goodCount, goalCount
            pointCount := goodCount * appraisal.goalCount } := by
  subst goods goals
  have counts : (World.ask (tracer.buildRays true)
      (World.ask builder.goalCount world).state).value = (appraisal.traces world.system).card :=
    (decides.buildRays true).answer _ _
  have figures {found : List ℚ} {measured : World ℚ τ S R}
      (returned : Returns (adjustmentSteps tracer surfaces rays options.step)
        (surveyed tracer builder world) found measured) :=
    decides.figured ((congrArg Seen.good (decides.measures world returned).2).symm.trans
      (decides.sees_surveyed world))
  have stepped (steps : Vector ℚ (surfaces.length + rays.length)) :
      (∃ found measured, Returns (adjustmentSteps tracer surfaces rays options.step)
          (surveyed tracer builder world) found measured ∧
        Adjust.steps (surfaces.length + rays.length) found = .ok steps) ↔
      Stepped tracer (surveyed tracer builder world) options.step surfaces rays steps :=
    exists_steps decides.isGood decides.rayOutput ⟨rfl, rfl⟩
  simp only [returns_plan, counts]
  constructor
  · rintro ⟨rms, ready, goals, params, good, found, measured, returned, agrees, steps, config, fits,
      made, rfl, rfl, rfl⟩
    obtain ⟨checked, pointed, _⟩ := figures returned
    refine ⟨goals, params, good, checked.symm.trans agrees, steps, config,
      (stepped steps).mp ⟨found, measured, returned, fits⟩, made, ?_⟩
    rw [pointed]
  · rintro ⟨goals, params, good, agrees, steps, config, measures, made, rfl⟩
    obtain ⟨found, measured, returned, fits⟩ := (stepped steps).mpr measures
    obtain ⟨checked, pointed, _⟩ := figures returned
    refine ⟨_, _, goals, params, good, found, measured, returned, checked.trans agrees, steps,
      config, fits, made, ?_, rfl, rfl⟩
    rw [pointed]

theorem counts
    (returned : Returns (plan tracer builder surfaces rays options wavefrontGoal) world
      (planned, rms) ready) :
    planned.goodCount = (appraisal.traces world.system).card ∧
      planned.pointCount = (appraisal.traces world.system).card * appraisal.goalCount ∧
      planned.pointCount = planned.termCount := by
  obtain ⟨_, _, _, agrees, steps, config, _, _, rfl⟩ :=
    (decides.exists_returns_plan rfl rfl).mp ⟨rms, ready, returned⟩
  exact ⟨rfl, rfl, agrees⟩

end Setup

end Decides

end OpticTune.Optics.Appraisal
