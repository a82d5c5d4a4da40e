import Mathlib.Algebra.Order.Ring.Rat
import OpticTune.Proofs.Adjust.Plan
import OpticTune.Proofs.Optics.Appraisal
import OpticTune.Scalar.Rational

namespace OpticTune.Adjust

open Act (Keeps Returns)
open Optics

/-! Benches an adjustment can rely on.

The tracer and the builder may answer anything at any time, failures included. All
that is asked of a dependable bench is that residuals keep their number and that no
sum of squares is negative. One that answers by the tables is dependable.
-/

variable {τ : Type} {S R : ℕ} {tracer : Tracer ℚ τ S R} {builder : ResidualBuilder ℚ τ S R}

/-- What a sound bench answers, and that it stays sound. Residuals are computed
only after no ray was lost. -/
structure Dependable (tracer : Tracer ℚ τ S R) (builder : ResidualBuilder ℚ τ S R)
    (goodCount pointCount : ℕ) (sound : τ → Prop) : Prop where
  buildRays : ∀ system ⦃bench⦄, sound bench → sound (tracer.buildRays false system bench).2
  updateOrientations : ∀ system ⦃bench⦄, sound bench →
    sound (tracer.updateOrientations system bench).2
  compute : ∀ system ⦃bench⦄, sound bench →
    goodCount ≤ (tracer.buildRays false system bench).1 →
    sound (builder.compute system (tracer.buildRays false system bench).2).2
  sos : ∀ system ⦃bench⦄, sound bench →
    0 ≤ (builder.sos system bench).1 ∧ sound (builder.sos system bench).2
  rms : ∀ system ⦃bench⦄, sound bench → sound (builder.rms system bench).2
  residuals : ∀ system ⦃bench⦄, sound bench →
    (builder.residuals system bench).1.length = pointCount ∧
      sound (builder.residuals system bench).2

end OpticTune.Adjust

namespace OpticTune.Optics.Appraisal.Answers

open Act (Keeps Returns)
open Adjust

variable {τ : Type} {S R : ℕ} {tracer : Tracer ℚ τ S R} {builder : ResidualBuilder ℚ τ S R}
  {appraisal : Appraisal S R} {seen : τ → Seen S R}
  (answers : appraisal.Answers tracer builder seen)

include answers

theorem dependable (good : Finset (Fin R)) :
    Dependable tracer builder good.card (good.card * appraisal.goalCount)
      fun bench => (seen bench).good = good where
  buildRays system bench sound := by
    rw [(answers.buildRays false).leaves]
    exact sound
  updateOrientations system bench sound := by
    rw [answers.updateOrientations]
    exact sound
  compute system bench sound _ := by
    rw [answers.compute.leaves, (answers.buildRays false).leaves]
    exact sound
  sos system bench sound := by
    rw [answers.sos.answer, answers.sos.leaves]
    exact ⟨appraisal.sos_nonneg _ _, sound⟩
  rms system bench sound := by
    rw [answers.rms.leaves]
    exact sound
  residuals system bench sound := by
    rw [answers.residuals.answer, answers.residuals.leaves]
    exact ⟨(appraisal.length_residuals _ _).trans (by rw [sound]), sound⟩

/-- What an adjustment finds when it is set up: the figures of the tables at the
rays that trace there. From then on it can rely on the bench. -/
theorem planned [Planar ℚ] {surfaces rays : List Adjustable} {options : Options ℚ}
    {wavefrontGoal : Bool} {planned : Plan ℚ} {rms : ℚ} {world ready : World ℚ τ S R}
    (returned : Returns (plan tracer builder surfaces rays options wavefrontGoal) world
      (planned, rms) ready) :
    let good := appraisal.traces world.system
    planned.goodCount = good.card ∧ planned.pointCount = planned.termCount ∧
      Dependable tracer builder planned.goodCount planned.pointCount
        (fun bench => (seen bench).good = good) ∧
      seen ready.bench = ⟨good, world.system⟩ ∧ rms = appraisal.rms world.system good := by
  intro good
  obtain ⟨found, measured, stepped, _, _, _, _, goodIs, goalsAre, pointsAre, rmsIs, rfl⟩ :=
    of_returns_plan returned
  have keeps {β : Type} {query : Query ℚ τ S R β}
      (leaves : ∀ system bench, seen (query system bench).2 = seen bench) :
      Keeps (fun later : World ℚ τ S R => later.system = world.system ∧
        (seen later.bench).good = good) (World.ask query) := by
    rintro later ⟨same, kept⟩
    exact ⟨same, (congrArg Seen.good (leaves later.system later.bench)).trans kept⟩
  have built : (seen (tracer.buildRays true world.system
      (builder.goalCount world.system world.bench).2).2).good = good := by
    rw [(answers.buildRays true).leaves]
    rfl
  obtain ⟨same, kept⟩ := (keeps_adjustmentSteps (fun ray => keeps (answers.isGood ray))
    (fun ray surface entry => keeps (answers.rayOutput ray surface entry)) surfaces rays
    options.step).of_returns stepped ⟨rfl, built⟩
  have computed : seen (builder.compute measured.system measured.bench).2 =
      ⟨good, world.system⟩ := by
    rw [answers.compute.leaves, ← kept, ← same]
    rfl
  simp only [World.value_ask, World.state_ask, (answers.buildRays true).answer,
    answers.goalCount.answer, answers.pointCount.answer, answers.pointCount.leaves,
    answers.rms.answer, answers.rms.leaves, computed] at goodIs goalsAre pointsAre rmsIs ⊢
  have points : planned.pointCount = good.card * appraisal.goalCount :=
    pointsAre.trans (appraisal.length_residuals world.system good)
  refine ⟨goodIs, ?_, ?_, rfl, rmsIs⟩
  · rw [points, Plan.termCount, goodIs, goalsAre]
    rfl
  · rw [points, goodIs]
    exact answers.dependable good

end OpticTune.Optics.Appraisal.Answers

namespace OpticTune.Adjust

open Act (Returns)
open Optics

section Edge

/-- Exact along the axes. -/
@[reducible]
def axial : Planar ℚ :=
  ⟨fun x y => |x| + |y|⟩

/-- A single ray that starts in the given direction, and plane surfaces. -/
def edgeWorld {S : ℕ} (start : ℚ) : World ℚ (Seen S 1) S 1 :=
  let system : OpticalSystem ℚ S 1 :=
    { surfaces := Table.zeros
      rays := Table.ofFn fun _ column => if (column : ℕ) = 3 then start else 0
      size := 10 }
  { system, bench := ⟨∅, system⟩ }

/-- The direction of the ray is adjusted, and what is given of the surfaces. -/
def edgePlan {S : ℕ} (surfaces : List Adjustable) :
    ExceptT (PlanError ℚ) (Act ℚ (World ℚ (Seen S 1) S 1)) (Plan ℚ × ℚ) :=
  letI := axial
  plan edgeTracer edge.builder surfaces [⟨3, 0, []⟩] ⟨1 / 8, 100, 1e-12⟩ false

end Edge

end OpticTune.Adjust
