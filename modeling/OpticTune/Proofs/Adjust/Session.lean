import OpticTune.Adjust.Session
import OpticTune.Proofs.Adjust.Problem
import OpticTune.Proofs.Solver.Fit

namespace OpticTune.Adjust

open Act (Keeps Returns)
open Optics
open Solver (Config Fault Fit Host Measured Problem Status)

/-! What is set up, what a tick does, and what no tick changes. -/

variable {α τ : Type} {S R : Nat} {plan : Plan α}

namespace Session

def world (session : Session α τ S R plan) : World α τ S R :=
  session.fit.host.problem.world

def system (session : Session α τ S R plan) : OpticalSystem α S R :=
  session.world.system

/-- The session with the rms asked for anew. -/
def reported (builder : ResidualBuilder α τ S R) (session : Session α τ S R plan) :
    Session α τ S R plan :=
  let asked := onWorld (World.ask builder.rms) session
  { asked.state with rms := asked.value }

theorem returns_reachCap {session final : Session α τ S R plan} {status : Status} :
    Returns reachCap session status final ↔
      status = .max ∧ final = { session with status := some .max } := by
  rw [reachCap, Act.returns_modify_bind, Act.returns_pure]

/-- How a tick closes that did not find the session at its end. -/
def closing (builder : ResidualBuilder α τ S R) (iteration : Nat) (status : Status) :
    ExceptT Fault (Act α (Session α τ S R plan)) Status := do
  let rms ← ExceptT.lift (onWorld (World.ask builder.rms))
  modify fun session => { session with rms }
  Act.note (.ticked iteration status rms (← get).fit.solver.damping)
  if status.isTerminal then Act.note (.adjustmentDone iteration status rms)
  return status

theorem returns_closing {builder : ResidualBuilder α τ S R} {iteration : Nat}
    {session final : Session α τ S R plan} {status ended : Status} :
    Returns (closing builder iteration ended) session status final ↔
      status = ended ∧ final = reported builder session := by
  refine Act.returns_liftM_bind.trans (Act.returns_modify_bind.trans ?_)
  rw [Act.returns_get_bind, Act.returns_note_bind]
  split
  · rw [Act.returns_note_bind, Act.returns_pure]
    rfl
  · exact Act.returns_pure

theorem keeps_onWorld {β : Type} {holds : World α τ S R → Prop}
    {action : Act α (World α τ S R) β} (keeps : Keeps holds action) :
    Keeps (fun session : Session α τ S R plan => holds session.world) (onWorld action) :=
  fun _ held => keeps held

theorem keeps_closing {builder : ResidualBuilder α τ S R} {holds : World α τ S R → Prop}
    (asked : Keeps holds (World.ask builder.rms)) (iteration : Nat) (status : Status) :
    Keeps (fun session : Session α τ S R plan => holds session.world)
      (closing builder iteration status).run := by
  refine (keeps_onWorld asked).lift.andThen fun rms => (Act.keeps_set ?_).andThen fun _ =>
    Act.keeps_get.andThen fun _ => (Act.keeps_note _).andThen fun _ => ?_
  · exact fun _ held => held
  · split
    · exact (Act.keeps_note _).andThen fun _ => Act.keeps_return _
    · exact Act.keeps_return _

variable [Scalar α] (tracer : Tracer α τ S R) (builder : ResidualBuilder α τ S R)

/-- The session after a number of ticks. A tick that is stopped leaves one too. -/
def after (session : Session α τ S R plan) : Nat → Session α τ S R plan
  | 0 => session
  | ticks + 1 => ((tick tracer builder).run (after session ticks)).state

variable {tracer builder}

section Tick

variable {session final : Session α τ S R plan} {status : Status}
  {host : Host α (Measured α (Store α τ S R) plan.pointCount plan.adjustableCount)}

theorem returns_iterateOn :
    Returns (iterateOn host) session status final ↔
      ∃ solver fit, Returns (Fit.iterate host plan.config) session.fit (solver, status) fit ∧
        final = { session with fit, status := some status } := by
  rw [iterateOn, Act.returns_bind]
  constructor
  · rintro ⟨⟨solver, other⟩, _, returned, rest⟩
    obtain ⟨fit, iterated, rfl⟩ := Act.returns_within.mp returned
    simp only [Act.returns_modify_bind, Act.returns_pure] at rest
    obtain ⟨rfl, rfl⟩ := rest
    exact ⟨solver, fit, iterated, rfl⟩
  · rintro ⟨solver, fit, iterated, rfl⟩
    refine ⟨(solver, status), _, Act.returns_within.mpr ⟨fit, iterated, rfl⟩, ?_⟩
    exact Act.returns_modify_bind.mpr (Act.returns_pure.mpr ⟨rfl, rfl⟩)

/-- A session that has ended stays as it is, one at the cap ends there, and any
other iterates once. -/
theorem returns_tickOn :
    Returns (tickOn host builder) session status final ↔
      match session.ending with
      | some ending => status = ending ∧ final = session
      | none =>
          if plan.options.maxIterations ≤ (session.iteration + 1 : Nat) then
            status = .max ∧ final = reported builder
              { session with iteration := session.iteration + 1, status := some .max }
          else ∃ solver fit,
            Returns (Fit.iterate host plan.config) session.fit (solver, status) fit ∧
            final = reported builder
              { session with fit, iteration := session.iteration + 1, status := some status } := by
  rw [tickOn, Act.returns_get_bind]
  cases session.ending with
  | some ending => exact Act.returns_pure
  | none =>
      simp only [Act.returns_modify_bind, Act.returns_get_bind]
      split
      · rw [Act.returns_bind]
        constructor
        · rintro ⟨ended, middle, reached, rest⟩
          obtain ⟨rfl, rfl⟩ := returns_reachCap.mp reached
          exact returns_closing.mp rest
        · rintro ⟨rfl, rfl⟩
          exact ⟨_, _, returns_reachCap.mpr ⟨rfl, rfl⟩, returns_closing.mpr ⟨rfl, rfl⟩⟩
      · rw [Act.returns_bind]
        constructor
        · rintro ⟨ended, middle, iterated, rest⟩
          obtain ⟨solver, fit, returned, rfl⟩ := returns_iterateOn.mp iterated
          obtain ⟨rfl, rfl⟩ := returns_closing.mp rest
          exact ⟨solver, fit, returned, rfl⟩
        · rintro ⟨solver, fit, iterated, rfl⟩
          exact ⟨status, _, returns_iterateOn.mpr ⟨solver, fit, iterated, rfl⟩,
            returns_closing.mpr ⟨rfl, rfl⟩⟩

end Tick

section Kept

/-- What every change of the parameters, every evaluation and every question for
the rms keep, a tick keeps, whether it returns or is stopped. -/
theorem keeps_tick {holds : World α τ S R → Prop}
    (kept : (problem tracer builder plan.surfaces plan.rays plan.goodCount).KeptBy
      fun store => holds store.world)
    (asked : Keeps holds (World.ask builder.rms)) :
    Keeps (fun session : Session α τ S R plan => holds session.world)
      (tick tracer builder).run := by
  have host := kept.host (m := plan.pointCount) plan.steps
  have iterates : Keeps (fun session : Session α τ S R plan => holds session.world)
      (iterate tracer builder).run := by
    have onFit := (host.fit plan.config).within Session.fit
      (fun (session : Session α τ S R plan) fit => { session with fit })
      (fun _ held => held) fun _ _ _ held => held
    refine Keeps.andThen onFit fun _ => (Act.keeps_set ?_).andThen fun _ => Act.keeps_return _
    exact fun _ held => held
  have caps : Keeps (fun session : Session α τ S R plan => holds session.world)
      (reachCap : ExceptT Fault (Act α (Session α τ S R plan)) Status).run := by
    refine (Act.keeps_set ?_).andThen fun _ => Act.keeps_return _
    exact fun _ held => held
  refine Act.keeps_get.andThen fun session => ?_
  split
  · exact Act.keeps_return _
  · refine (Act.keeps_set ?_).andThen fun _ => Act.keeps_get.andThen fun counted => ?_
    · exact fun _ held => held
    · simp only
      split
      · exact caps.andThen fun status => keeps_closing asked _ status
      · exact iterates.andThen fun status => keeps_closing asked _ status

theorem world_after_kept (holds : World α τ S R → Prop)
    (kept : (problem tracer builder plan.surfaces plan.rays plan.goodCount).KeptBy
      fun store => holds store.world)
    (asked : Keeps holds (World.ask builder.rms)) (session : Session α τ S R plan)
    (held : holds session.world) (ticks : Nat) :
    holds (session.after tracer builder ticks).world := by
  induction ticks with
  | zero => exact held
  | succ ticks ih => exact keeps_tick kept asked ih

variable (tracer builder)

theorem after_kept {holds : OpticalSystem α S R → Prop}
    (moves : ∀ delta system, holds system → holds (shifted plan.surfaces plan.rays delta system))
    (session : Session α τ S R plan) (held : holds session.system) (ticks : Nat) :
    holds (after tracer builder session ticks).system :=
  world_after_kept (fun world => holds world.system)
    (kept_problem tracer builder plan.goodCount moves) (keeps_ask builder.rms) session held ticks

end Kept

end Session

end OpticTune.Adjust
