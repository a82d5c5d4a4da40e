import OpticTune.Proofs.Adjust.Bench
import OpticTune.Proofs.Adjust.Displacement
import OpticTune.Proofs.Adjust.Session

namespace OpticTune.Adjust

open Act (Returns)
open Optics
open Solver (Call Config Fit amounts keptSteps travelled)

/-! The tables an adjustment reaches.

On a dependable bench every tick returns, and the tables are the initial ones moved
by the steps that were kept.
-/

variable {τ : Type} {S R : ℕ} {tracer : Tracer ℚ τ S R} {builder : ResidualBuilder ℚ τ S R}

section Problem

variable {surfaces rays : List Adjustable} {goodCount pointCount : ℕ} {sound : τ → Prop}

theorem steady_problem (dependable : Dependable tracer builder goodCount pointCount sound)
    (base : OpticalSystem ℚ S R) :
    (problem tracer builder surfaces rays goodCount).Steady pointCount
      fun (place : Fin (surfaces.length + rays.length) → ℚ) store =>
        store.world.system = shifted surfaces rays (List.ofFn place) base ∧
          sound store.world.bench where
  apply := by
    rintro place store ⟨system, sane⟩ delta
    constructor
    · change (apply tracer surfaces rays (List.ofFn delta) store.world).state.system = _
      rw [system_apply, system, shifted_shifted, Solver.amounts_ofFn]
    · change sound (apply tracer surfaces rays (List.ofFn delta) store.world).state.bench
      rw [bench_apply]
      split
      · exact dependable.updateOrientations _ sane
      · exact sane
  evaluate := by
    rintro place store ⟨system, sane⟩
    have built := dependable.buildRays store.world.system sane
    change (_ ∧ _) ∧ ∀ sos ∈ (evaluate tracer builder goodCount store).value, _
    by_cases lost : (tracer.buildRays false store.world.system store.world.bench).1 < goodCount
    · obtain ⟨value, state⟩ := evaluate_lost tracer builder goodCount store lost
      rw [value]
      refine ⟨?_, nofun⟩
      change (evaluate tracer builder goodCount store).state.world.system = _ ∧
        sound (evaluate tracer builder goodCount store).state.world.bench
      rw [state]
      exact ⟨system, built⟩
    · obtain ⟨value, state⟩ := evaluate_traced tracer builder goodCount store lost
      have computed := dependable.compute store.world.system sane (not_lt.mp lost)
      obtain ⟨nonneg, summed⟩ := dependable.sos store.world.system computed
      rw [value]
      refine ⟨?_, fun sos found => Option.some.inj found ▸ nonneg⟩
      change (evaluate tracer builder goodCount store).state.world.system = _ ∧
        sound (evaluate tracer builder goodCount store).state.world.bench
      rw [state]
      exact ⟨system, dependable.rms _ summed⟩
  residuals := by
    rintro place store ⟨system, sane⟩
    obtain ⟨length, kept⟩ := dependable.residuals store.world.system sane
    exact ⟨length, system, kept⟩

end Problem

namespace Session

variable {plan : Plan ℚ}

/-- The calls a tick makes on the host; none at the end and none at the cap. -/
def calls (tracer : Tracer ℚ τ S R) (builder : ResidualBuilder ℚ τ S R)
    (session : Session ℚ τ S R plan) : List (Call ℚ) :=
  if session.complete ∨ plan.options.maxIterations ≤ (session.iteration + 1 : ℕ) then []
  else
    ((Solver.iterate (plan.host tracer builder).recorded plan.config session.fit.solver).run
      ⟨session.fit.host, []⟩).state.calls

theorem calls_of_ended {session : Session ℚ τ S R plan} {ending : Solver.Status}
    (ended : session.ending = some ending) : session.calls tracer builder = [] := by
  have complete : session.complete = true := by
    rw [Session.complete, ended]
    rfl
  exact if_pos (.inl complete)

theorem calls_of_capped {session : Session ℚ τ S R plan}
    (capped : plan.options.maxIterations ≤ (session.iteration + 1 : ℕ)) :
    session.calls tracer builder = [] :=
  if_pos (.inr capped)

theorem calls_of_running {session : Session ℚ τ S R plan} (running : session.ending = none)
    (further : ¬ plan.options.maxIterations ≤ (session.iteration + 1 : ℕ)) :
    session.calls tracer builder =
      ((Solver.iterate (plan.host tracer builder).recorded plan.config session.fit.solver).run
        ⟨session.fit.host, []⟩).state.calls := by
  have incomplete : session.complete = false := by
    rw [Session.complete, running]
    rfl
  exact if_neg (not_or.mpr ⟨Bool.not_eq_true _ ▸ incomplete, further⟩)

structure Stands (base : OpticalSystem ℚ S R) (sound : τ → Prop)
    (place : Fin plan.adjustableCount → ℚ) (session : Session ℚ τ S R plan) : Prop where
  system : session.system = shifted plan.surfaces plan.rays (List.ofFn place) base
  sound : sound session.world.bench
  damping : 0 < session.fit.solver.damping

variable {base : OpticalSystem ℚ S R} {sound : τ → Prop} {place : Fin plan.adjustableCount → ℚ}
  {session : Session ℚ τ S R plan}

theorem Stands.reported (standing : session.Stands base sound place)
    (rms : ∀ system ⦃bench⦄, sound bench → sound (builder.rms system bench).2) :
    (reported builder session).Stands base sound place :=
  ⟨standing.system, rms _ standing.sound, standing.damping⟩

/-- A tick returns, and takes the tables where the steps it keeps lead. -/
theorem exists_tick
    (dependable : Dependable tracer builder plan.goodCount plan.pointCount sound)
    (accepted : plan.config.Accepted plan.pointCount plan.adjustableCount)
    (standing : session.Stands base sound place) :
    ∃ status final, Returns (tick tracer builder) session status final ∧
      status.Admits (keptSteps (session.calls tracer builder)) ∧
      final.Stands base sound (place + travelled _ (session.calls tracer builder)) := by
  simp only [tick, returns_tickOn]
  cases ended : session.ending with
  | some ending =>
      rw [calls_of_ended ended, Solver.travelled_nil, add_zero]
      refine ⟨ending, session, ⟨rfl, rfl⟩, ?_, standing⟩
      have terminal : ending.isTerminal = true := (Option.filter_eq_some_iff.mp ended).2
      cases ending with
      | down => contradiction
      | level => exact .inl rfl
      | max | bad => rfl
  | none =>
      by_cases capped : plan.options.maxIterations ≤ (session.iteration + 1 : ℕ)
      · rw [calls_of_capped capped, Solver.travelled_nil, add_zero]
        simp only [capped, ↓reduceIte]
        have capped : { session with
            iteration := session.iteration + 1
            status := some .max : Session ℚ τ S R plan }.Stands base sound place :=
          ⟨standing.system, standing.sound, standing.damping⟩
        exact ⟨.max, _, ⟨rfl, rfl⟩, rfl, capped.reported dependable.rms⟩
      · have steady := (steady_problem dependable base).host plan.steps
        obtain ⟨⟨solver, status⟩, after, found, returned, recorded, positive, admits, arrives⟩ :=
          steady.exists_iterate accepted standing.damping ⟨standing.system, standing.sound⟩
        have made : session.calls tracer builder = found :=
          (calls_of_running ended capped).trans (congrArg Solver.Recorded.calls recorded.2)
        rw [made]
        simp only [capped, ↓reduceIte]
        have iterated : Returns (Fit.iterate (plan.host tracer builder) plan.config) session.fit
            (solver, status) { host := after, solver := solver } :=
          Fit.returns_iterate.mpr ⟨after, returned, rfl⟩
        refine ⟨status, _, ⟨solver, _, iterated, rfl⟩, admits, ?_⟩
        have moved : { session with
            fit := { host := after, solver := solver }
            iteration := session.iteration + 1
            status := some status : Session ℚ τ S R plan }.Stands base sound
              (place + travelled _ found) :=
          ⟨arrives.1, arrives.2, positive⟩
        exact moved.reported dependable.rms

/-- The steps kept during the first ticks, the earliest first. -/
def kept (tracer : Tracer ℚ τ S R) (builder : ResidualBuilder ℚ τ S R)
    (session : Session ℚ τ S R plan) (ticks : ℕ) : List (List ℚ) :=
  (List.range ticks).flatMap fun tick =>
    keptSteps ((session.after tracer builder tick).calls tracer builder)

theorem kept_succ (ticks : ℕ) :
    session.kept tracer builder (ticks + 1) = session.kept tracer builder ticks ++
      keptSteps ((session.after tracer builder ticks).calls tracer builder) := by
  rw [kept, kept, List.range_succ, List.flatMap_append, List.flatMap_singleton]

/-- Tick by tick, the tables are where the steps kept so far lead. -/
theorem Stands.after
    (dependable : Dependable tracer builder plan.goodCount plan.pointCount sound)
    (accepted : plan.config.Accepted plan.pointCount plan.adjustableCount)
    (standing : session.Stands base sound 0) (ticks : ℕ) :
    (session.after tracer builder ticks).Stands base sound
      ((session.kept tracer builder ticks).map (amounts plan.adjustableCount)).sum := by
  induction ticks with
  | zero => exact standing
  | succ ticks ih =>
      obtain ⟨status, final, returned, admits, moved⟩ := exists_tick dependable accepted ih
      obtain rfl : (session.after tracer builder (ticks + 1)) = final := returned.2
      rw [kept_succ, List.map_append, List.sum_append, ← Solver.travelled_eq]
      exact moved

/-- A session that was just set up stands where the tables were found. -/
theorem stands_start [Planar ℚ] {surfaces rays : List Adjustable} {options : Options ℚ}
    {wavefrontGoal : Bool} {world ready : World ℚ τ S R} {rms : ℚ}
    (returned : Returns (Adjust.plan tracer builder surfaces rays options wavefrontGoal) world
      (plan, rms) ready) (sane : sound ready.bench) :
    (start plan ready rms).Stands world.system sound 0 := by
  obtain ⟨_, _, _, _, made, _⟩ := of_returns_plan returned
  have unmoved : (start plan ready rms).system = world.system := system_of_returns_plan returned
  exact ⟨unmoved.trans (shifted_zero _).symm, sane, (Config.accepted_of_make made).initialDamping⟩

end Session

section Planned

variable [Planar ℚ] {surfaces rays : List Adjustable} {options : Options ℚ} {wavefrontGoal : Bool}
  {planned : Plan ℚ} {rms : ℚ} {world ready : World ℚ τ S R} {sound : τ → Prop}

/-- What was set up is accepted by the solver, if the residuals are still as many
when they are counted again. -/
theorem accepted_of_returns_plan
    (returned : Returns (plan tracer builder surfaces rays options wavefrontGoal) world
      (planned, rms) ready)
    (counted : planned.pointCount = planned.termCount) :
    planned.config.Accepted planned.pointCount planned.adjustableCount := by
  obtain ⟨_, _, _, _, made, rfl, rfl, good, goals, _⟩ := of_returns_plan returned
  have accepted := Config.accepted_of_make made
  rw [counted, Plan.termCount, good, goals]
  exact accepted

/-- At every tick of an adjustment the tables are the initial ones, displaced by
the sum of the steps kept so far; what no adjustable reaches is as it was. The
tick returns, and one that ends badly leaves the tables alone. -/
theorem tables_displaced
    (insideSurfaces : ∀ adjustable ∈ surfaces, adjustable.Inside S Surface.columnCount)
    (insideRays : ∀ adjustable ∈ rays, adjustable.Inside R RayAttribute.columnCount)
    (returned : Returns (plan tracer builder surfaces rays options wavefrontGoal) world
      (planned, rms) ready)
    (dependable : Dependable tracer builder planned.goodCount planned.pointCount sound)
    (sane : sound ready.bench) (counted : planned.pointCount = planned.termCount) (ticks : ℕ) :
    let start := Session.start planned ready rms
    let session := start.after tracer builder
    let place := ((start.kept tracer builder ticks).map (amounts _)).sum
    (session ticks).system = displaced surfaces rays world.system place ∧
    (∀ (i : Fin S) (c : Fin Surface.columnCount),
      (∀ adjustable ∈ surfaces, adjustable.surfaceReach i c = 0) →
      (session ticks).system.surfaces.get i c = world.system.surfaces.get i c) ∧
    (∀ (i : Fin R) (c : Fin RayAttribute.columnCount),
      (∀ adjustable ∈ rays, adjustable.reach i c = 0) →
      (session ticks).system.rays.get i c = world.system.rays.get i c) ∧
    (session ticks).system.size = world.system.size ∧
    ∃ status, Returns (Session.tick tracer builder) (session ticks) status (session (ticks + 1)) ∧
      status.Admits (keptSteps ((session ticks).calls tracer builder)) ∧
      (status = .bad → (session (ticks + 1)).system = (session ticks).system) := by
  intro start session place
  have accepted := accepted_of_returns_plan returned counted
  have begun : start.Stands world.system sound 0 := Session.stands_start returned sane
  have standing := begun.after dependable accepted ticks
  obtain ⟨status, final, ticked, admits, moved⟩ := Session.exists_tick dependable accepted standing
  obtain rfl : session (ticks + 1) = final := ticked.2
  obtain ⟨_, _, _, _, _, rfl, rfl, _⟩ := of_returns_plan returned
  have stands : (session ticks).system = displaced _ _ world.system place :=
    standing.system.trans (shifted_eq_displaced insideSurfaces insideRays _ _)
  refine ⟨stands, ?_, ?_, ?_, status, ticked, admits, ?_⟩
  · intro i c unreached
    rw [stands, surfaces_displaced_unreached unreached]
  · intro i c unreached
    rw [stands, rays_displaced_unreached unreached]
  · rw [stands, displaced]
  · rintro rfl
    rw [moved.system, standing.system, Solver.travelled_eq, admits, List.map_nil, List.sum_nil,
      add_zero]

end Planned

/-- SHAPE of the first of three surfaces, which takes the second the other way. -/
def gangedShape : Adjustable :=
  ⟨8, 0, [⟨1, -1⟩, ⟨2, 1⟩]⟩

theorem tables_displaced_edge :
    ∃ planned rms ready,
      Returns (edgePlan [gangedShape]) (edgeWorld (S := 3) 1) (planned, rms) ready ∧
      let start := Session.start planned ready rms
      let session := start.after edgeTracer edge.builder
      (session 2).system = displaced [gangedShape] [⟨3, 0, []⟩] (edgeWorld 1).system
        ((start.kept edgeTracer edge.builder 2).map (amounts 2)).sum ∧
      ∃ status, Returns (Session.tick edgeTracer edge.builder) (session 2) status (session 3) ∧
        status.Admits (keptSteps ((session 2).calls edgeTracer edge.builder)) := by
  obtain ⟨⟨planned, rms⟩, ready, returned⟩ : ∃ answer after,
      Returns (edgePlan [gangedShape]) (edgeWorld (S := 3) 1) answer after :=
    Act.exists_returns (by decide +kernel)
  have insideSurfaces : ∀ adjustable ∈ [gangedShape],
      adjustable.Inside 3 Surface.columnCount := by
    intro adjustable member
    cases List.mem_singleton.mp member
    exact ⟨by decide, by decide, by decide⟩
  have insideRays : ∀ adjustable ∈ [(⟨3, 0, []⟩ : Adjustable)],
      adjustable.Inside 1 RayAttribute.columnCount := by
    intro adjustable member
    cases List.mem_singleton.mp member
    exact ⟨by decide, by decide, nofun⟩
  let planar := axial
  obtain ⟨_, counted, dependable, seen, _⟩ := edge_answers.planned returned
  obtain ⟨displaced, _, _, _, status, ticked, admits, _⟩ :=
    tables_displaced insideSurfaces insideRays returned dependable (congrArg Seen.good seen) counted
      2
  exact ⟨planned, rms, ready, returned, displaced, status, ticked, admits⟩

end OpticTune.Adjust
