import OpticTune.Adjust.Session
import OpticTune.Proofs.Adjust.Problem

namespace OpticTune.Adjust

open Act (Keeps Returns)
open Optics
open Solver (Config)

/-! What is known of an adjustment that was set up. -/

variable {α τ : Type} {S R : Nat} {tracer : Tracer α τ S R} {builder : ResidualBuilder α τ S R}
  {surfaces rays : List Adjustable} {options : Options α} {wavefrontGoal : Bool}
  {planned : Plan α} {rms : α} {world ready : World α τ S R}

theorem returns_liftExcept_bind {ε β γ : Type} {wrap : ε → PlanError α} {result : Except ε β}
    {next : β → ExceptT (PlanError α) (Act α (World α τ S R)) γ} {answer : γ}
    {before after : World α τ S R} :
    Returns (plan.liftExcept wrap result >>= next) before answer after ↔
      ∃ value, result = .ok value ∧ Returns (next value) before answer after := by
  cases result with
  | ok value =>
      rw [plan.liftExcept, pure_bind]
      simp
  | error error =>
      rw [plan.liftExcept]
      simp

variable [Scalar α] [Planar α]

section Steps

variable {holds : World α τ S R → Prop}
  (good : ∀ ray, Keeps holds (World.ask (tracer.isGood ray)))
  (output : ∀ ray surface entry, Keeps holds (World.ask (tracer.rayOutput ray surface entry)))

include good output

theorem keeps_footprintRadius (surface : Int) (rayCount : Nat) :
    Keeps holds (footprintRadius tracer surface rayCount) := by
  have widens (ray : Nat) (radius : α) :
      Keeps holds (footprintRadius.widen tracer surface ray radius) := by
    refine (good ray).bind fun isGood => ?_
    split
    · exact (output ray surface .xl).bind fun x => (output ray surface .yl).bind fun y =>
        Act.keeps_pure _
    · exact Act.keeps_pure _
  have folds (rays : List Nat) (radius : α) :
      Keeps holds (rays.foldlM (fun radius ray => footprintRadius.widen tracer surface ray radius)
        radius) := by
    induction rays generalizing radius with
    | nil => exact Act.keeps_pure radius
    | cons ray rest ih => exact (widens ray radius).bind fun radius => ih radius
  exact folds _ _

theorem keeps_surfaceSteps (userStep : α) (surfaces : List Adjustable) (radii : List (Int × α)) :
    Keeps holds (surfaceSteps tracer userStep surfaces radii).run := by
  induction surfaces generalizing radii with
  | nil => exact Act.keeps_return _
  | cons adjustable rest ih =>
      have continues (radius : α) (radii : List (Int × α)) : Keeps holds (do
          let size := (← get).system.size
          let step ← surfaceStep adjustable.column userStep size radius
          let steps ← surfaceSteps tracer userStep rest radii
          return step :: steps : ExceptT StepError (Act α (World α τ S R)) (List α)).run :=
        Act.keeps_get.andThen fun world => (Act.keeps_ofExcept _).andThen fun step =>
          (ih radii).andThen fun steps => Act.keeps_return _
      rw [surfaceSteps]
      simp only
      split
      · exact (Act.keeps_return _).andThen fun radius => continues radius _
      · exact (keeps_footprintRadius good output adjustable.record R).lift.andThen fun radius =>
          continues radius _

theorem keeps_adjustmentSteps (surfaces rays : List Adjustable) (userStep : α) :
    Keeps holds (adjustmentSteps tracer surfaces rays userStep).run :=
  (keeps_surfaceSteps good output userStep surfaces []).andThen fun _ =>
    Act.keeps_get.andThen fun _ => Act.keeps_return _

end Steps

/-- An adjustment is set up if every check is passed; the questions are asked in
this order. -/
theorem returns_plan :
    Returns (plan tracer builder surfaces rays options wavefrontGoal) world (planned, rms) ready ↔
      let counted := World.ask builder.goalCount world
      let built := World.ask (tracer.buildRays true) counted.state
      ¬ counted.value < 1 ∧ ¬ surfaces.length + rays.length < 1 ∧ ¬ built.value < 1 ∧
      ∃ found measured, Returns (adjustmentSteps tracer surfaces rays options.step) built.state found
          measured ∧
        let computed := (World.ask builder.compute measured).state
        let checked := World.ask builder.pointCount computed
        let pointed := World.ask builder.pointCount checked.state
        let figured := World.ask builder.rms pointed.state
        checked.value = built.value * counted.value ∧
        ∃ steps config, Adjust.steps (surfaces.length + rays.length) found = .ok steps ∧
          Config.usual (surfaces.length + rays.length : Nat) (built.value * counted.value : Nat)
            options.tolerance .adjustment = .ok config ∧
          planned = {
            options, surfaces, rays, steps, config, wavefrontGoal
            goodCount := built.value
            goalCount := counted.value
            pointCount := pointed.value } ∧
          rms = figured.value ∧ ready = figured.state := by
  unfold plan
  rw [Act.returns_lift_bind, Act.returns_unless, Act.returns_unless, Act.returns_lift_bind,
    Act.returns_unless, Act.returns_bind]
  refine and_congr_right fun _ => and_congr_right fun _ => and_congr_right fun _ =>
    exists_congr fun found => exists_congr fun measured => and_congr Act.returns_adapt ?_
  rw [Act.returns_lift_bind, Act.returns_lift_bind]
  split
  · rename_i agrees
    simp only [returns_liftExcept_bind, Act.returns_lift_bind, Act.returns_note_bind,
      Act.returns_pure, Prod.mk.injEq, agrees, true_and, and_assoc, exists_and_left]
  · rename_i differs
    -- the residuals are counted once more, for the message
    rw [Act.returns_lift_bind, Act.returns_bind]
    simp only [Act.returns_throw, differs, false_and, exists_false]

/-- What was answered while an adjustment was set up. -/
theorem of_returns_plan
    (returned : Returns (plan tracer builder surfaces rays options wavefrontGoal) world
      (planned, rms) ready) :
    let counted := World.ask builder.goalCount world
    let built := World.ask (tracer.buildRays true) counted.state
    ∃ found measured, Returns (adjustmentSteps tracer surfaces rays options.step) built.state found
        measured ∧
      let computed := (World.ask builder.compute measured).state
      let checked := World.ask builder.pointCount computed
      let pointed := World.ask builder.pointCount checked.state
      let figured := World.ask builder.rms pointed.state
      checked.value = built.value * counted.value ∧
      Config.usual (surfaces.length + rays.length : Nat) (built.value * counted.value : Nat)
        options.tolerance .adjustment = .ok planned.config ∧
      planned.surfaces = surfaces ∧ planned.rays = rays ∧ planned.goodCount = built.value ∧
      planned.goalCount = counted.value ∧ planned.pointCount = pointed.value ∧
      rms = figured.value ∧ ready = figured.state := by
  obtain ⟨_, _, _, found, measured, stepped, agrees, steps, config, _, made, rfl, rfl, rfl⟩ :=
    returns_plan.mp returned
  exact ⟨found, measured, stepped, agrees, made, rfl, rfl, rfl, rfl, rfl, rfl, rfl⟩

/-- Setting up leaves the tables alone. -/
theorem system_of_returns_plan
    (returned : Returns (plan tracer builder surfaces rays options wavefrontGoal) world
      (planned, rms) ready) : ready.system = world.system := by
  obtain ⟨found, measured, stepped, _, _, _, _, _, _, _, _, rfl⟩ := of_returns_plan returned
  have asks {β : Type} (query : Query α τ S R β) :
      Keeps (fun later : World α τ S R => later.system = world.system) (World.ask query) :=
    fun _ same => same
  have kept := keeps_adjustmentSteps (fun ray => asks (tracer.isGood ray))
    (fun ray surface entry => asks (tracer.rayOutput ray surface entry)) surfaces rays options.step
  have same : measured.system = world.system := kept.of_returns stepped rfl
  exact same

end OpticTune.Adjust
