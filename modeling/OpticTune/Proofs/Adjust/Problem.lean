import OpticTune.Adjust.Problem
import OpticTune.Proofs.Solver.Keeps

namespace OpticTune.Adjust

open Act (Keeps)
open Optics

/-! What an adjustment does to the tables.

Only a change moves them: the tracer and the builder, whatever they answer and
however often they are asked, have no part in it.
-/

variable {α τ β : Type} {S R : Nat} {holds : OpticalSystem α S R → Prop}

theorem keeps_ask (query : Query α τ S R β) :
    Keeps (fun world : World α τ S R => holds world.system) (World.ask query) :=
  fun _ held => held

theorem keeps_inWorld {part : World α τ S R → Prop} {action : Act α (World α τ S R) β}
    (keeps : Keeps part action) : Keeps (fun store => part store.world) (inWorld action) :=
  keeps.within _ _ (fun _ held => held) fun _ _ _ held => held

theorem keeps_evaluate (tracer : Tracer α τ S R) (builder : ResidualBuilder α τ S R)
    (goodCount : Nat) :
    Keeps (fun store => holds store.world.system) (evaluate tracer builder goodCount) := by
  have asks {γ : Type} (query : Query α τ S R γ) :
      Keeps (fun store : Store α τ S R => holds store.world.system) (inWorld (World.ask query)) :=
    keeps_inWorld (keeps_ask query)
  refine (asks (tracer.buildRays false)).bind fun traced => ?_
  split
  · exact (Act.keeps_report _).bind fun _ => Act.keeps_pure _
  · refine (asks builder.compute).bind fun _ => (asks builder.sos).bind fun sos =>
      (asks builder.rms).bind fun rms => ?_
    refine (Act.keeps_modify ?_).bind fun _ => Act.keeps_pure _
    exact fun _ held => held

section Evaluate

variable (tracer : Tracer α τ S R) (builder : ResidualBuilder α τ S R) (goodCount : Nat)
  (store : Store α τ S R)

/-- An evaluation that loses rays fails, and the builder is not asked. -/
theorem evaluate_lost
    (lost : (tracer.buildRays false store.world.system store.world.bench).1 < goodCount) :
    let traced := tracer.buildRays false store.world.system store.world.bench
    (evaluate tracer builder goodCount store).value = none ∧
      (evaluate tracer builder goodCount store).state =
        { store with world := { store.world with bench := traced.2 } } := by
  have few : (inWorld (World.ask (tracer.buildRays false)) store).value < goodCount := lost
  rw [evaluate, Act.value_bind, Act.state_bind, if_pos few]
  exact ⟨rfl, rfl⟩

theorem evaluate_traced
    (traced : ¬ (tracer.buildRays false store.world.system store.world.bench).1 < goodCount) :
    let system := store.world.system
    let computed := (builder.compute system (tracer.buildRays false system store.world.bench).2).2
    let sos := builder.sos system computed
    let rms := builder.rms system sos.2
    (evaluate tracer builder goodCount store).value = some sos.1 ∧
      (evaluate tracer builder goodCount store).state =
        { world := { system, bench := rms.2 }, sos := some sos.1, rms := some rms.1 } := by
  have enough : ¬ (inWorld (World.ask (tracer.buildRays false)) store).value < goodCount := traced
  rw [evaluate, Act.value_bind, Act.state_bind, if_neg enough]
  exact ⟨rfl, rfl⟩

end Evaluate

variable [Scalar α] {surfaces rays : List Adjustable}

/-- The tables after a change. -/
def shifted (surfaces rays : List Adjustable) (delta : List α) (system : OpticalSystem α S R) :
    OpticalSystem α S R :=
  moveRays rays (delta.drop surfaces.length) (moveSurfaces surfaces delta system)

theorem system_apply (tracer : Tracer α τ S R) (delta : List α) (world : World α τ S R) :
    (apply tracer surfaces rays delta world).state.system =
      shifted surfaces rays delta world.system := by
  unfold apply
  split <;> rfl

theorem bench_apply (tracer : Tracer α τ S R) (delta : List α) (world : World α τ S R) :
    (apply tracer surfaces rays delta world).state.bench =
      if movesAngles surfaces then
        (tracer.updateOrientations (moveSurfaces surfaces delta world.system) world.bench).2
      else world.bench := by
  unfold apply
  split <;> rfl

theorem kept_problem (tracer : Tracer α τ S R) (builder : ResidualBuilder α τ S R)
    (goodCount : Nat)
    (moves : ∀ delta system, holds system → holds (shifted surfaces rays delta system)) :
    (problem tracer builder surfaces rays goodCount).KeptBy
      fun store => holds store.world.system where
  apply delta := by
    have applies : Keeps (fun world => holds world.system)
        (apply tracer surfaces rays delta) := by
      intro world held
      rw [system_apply]
      exact moves delta _ held
    exact keeps_inWorld applies
  evaluate := keeps_evaluate tracer builder goodCount
  residuals := keeps_inWorld (keeps_ask builder.residuals)

end OpticTune.Adjust
