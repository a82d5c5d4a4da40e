import Mathlib.Logic.Equiv.Fin.Basic
import OpticTune.Proofs.Adjust.Decided
import OpticTune.Proofs.Adjust.Ticks
import OpticTune.Proofs.Solver.Reordered

namespace OpticTune.Adjust

open Act (Returns)
open Optics
open Solver (Calls Config Fit Host Landscape Measured Problem Standing State Status)

/-! The order in which adjustables are listed is immaterial.

The adjustables of the surfaces may change places among themselves, and so may those
of the rays. Every adjustable keeps its own step, a change of all of them moves the
tables as before, and the fit is one whose parameters are listed in another order.
-/

/-- Lists with the same entries have them in corresponding places. -/
theorem exists_places {β : Type} {reordered items : List β} (same : reordered.Perm items) :
    ∃ places : Fin reordered.length ≃ Fin items.length,
      ∀ j, reordered.get j = items.get (places j) := by
  induction same with
  | nil => exact ⟨Equiv.refl _, nofun⟩
  | cons item _ ih =>
      obtain ⟨places, same⟩ := ih
      refine ⟨(finSuccEquiv _).trans (places.optionCongr.trans (finSuccEquiv _).symm), ?_⟩
      intro j
      cases j using Fin.cases with
      | zero => rfl
      | succ j => simpa using same j
  | swap one other rest =>
      refine ⟨(Equiv.swap 0 1 : Equiv.Perm (Fin (rest.length + 2))), ?_⟩
      intro j
      cases j using Fin.cases with
      | zero => simp
      | succ j =>
          cases j using Fin.cases with
          | zero => simp
          | succ j =>
              rw [Equiv.swap_apply_of_ne_of_ne (Fin.succ_ne_zero _) (by simp [Fin.ext_iff])]
              rfl
  | trans _ _ ih further =>
      obtain ⟨places, same⟩ := ih
      obtain ⟨others, further⟩ := further
      exact ⟨places.trans others, fun j => (same j).trans (further _)⟩

/-- Where the adjustables stand that are listed in another order. -/
structure Order (surfaces rays surfaces' rays' : List Adjustable) where
  surfacePlaces : Fin surfaces'.length ≃ Fin surfaces.length
  rayPlaces : Fin rays'.length ≃ Fin rays.length
  surface : ∀ j, surfaces'.get j = surfaces.get (surfacePlaces j)
  ray : ∀ j, rays'.get j = rays.get (rayPlaces j)

namespace Order

variable {surfaces rays surfaces' rays' : List Adjustable}

def columns (order : Order surfaces rays surfaces' rays') :
    Fin (surfaces'.length + rays'.length) ≃ Fin (surfaces.length + rays.length) :=
  finSumFinEquiv.symm.trans
    ((Equiv.sumCongr order.surfacePlaces order.rayPlaces).trans finSumFinEquiv)

theorem of_perm (surfacesSame : surfaces'.Perm surfaces) (raysSame : rays'.Perm rays) :
    Nonempty (Order surfaces rays surfaces' rays') := by
  obtain ⟨surfacePlaces, surface⟩ := exists_places surfacesSame
  obtain ⟨rayPlaces, ray⟩ := exists_places raysSame
  exact ⟨⟨surfacePlaces, rayPlaces, surface, ray⟩⟩

variable (order : Order surfaces rays surfaces' rays')

@[simp]
theorem columns_castAdd (j : Fin surfaces'.length) :
    order.columns (j.castAdd rays'.length) = (order.surfacePlaces j).castAdd rays.length := by
  simp [columns]

@[simp]
theorem columns_natAdd (j : Fin rays'.length) :
    order.columns (j.natAdd surfaces'.length) = (order.rayPlaces j).natAdd surfaces.length := by
  simp [columns]

variable {S R : ℕ}

/-- The same change of every adjustable moves the tables in the same way. -/
theorem shifted_comp (place : Fin (surfaces.length + rays.length) → ℚ)
    (system : OpticalSystem ℚ S R) :
    shifted surfaces' rays' (List.ofFn (place ∘ order.columns)) system =
      shifted surfaces rays (List.ofFn place) system := by
  refine systems_ext (fun i c => ?_) (fun i c => ?_) ?_
  · simp only [get_shifted_surfaces, Solver.amounts_ofFn, Function.comp_apply, columns_castAdd,
      order.surface]
    congr 1
    exact Equiv.sum_comp order.surfacePlaces fun j =>
      place (j.castAdd _) * (surfaces.get j).surfaceLanding i c
  · simp only [get_shifted_rays, Solver.amounts_ofFn, Function.comp_apply, columns_natAdd,
      order.ray]
    congr 1
    exact Equiv.sum_comp order.rayPlaces fun j =>
      place (j.natAdd _) * (rays.get j).landing i c
  · simp only [size_shifted]

theorem around_eq (appraisal : Appraisal S R) (good : Finset (Fin R)) {m m' : ℕ} (counts : m' = m)
    (base : OpticalSystem ℚ S R) :
    around appraisal good surfaces' rays' m' base =
      (around appraisal good surfaces rays m base).reordered order.columns (finCongr counts) := by
  have same (place : Fin (surfaces'.length + rays'.length) → ℚ) :
      shifted surfaces' rays' (List.ofFn place) base =
        shifted surfaces rays (List.ofFn (place ∘ order.columns.symm)) base := by
    rw [← order.shifted_comp, Function.comp_assoc, Equiv.symm_comp_self, Function.comp_id]
  simp only [around, Landscape.reordered, same, finCongr_apply, Fin.val_cast]

end Order

/-- The other plan has the same adjustables in the other order, and nothing else that
matters differs. -/
structure Plan.Reordered (plan plan' : Plan ℚ)
    (order : Order plan.surfaces plan.rays plan'.surfaces plan'.rays) : Prop where
  maxIterations : plan'.options.maxIterations = plan.options.maxIterations
  config : plan'.config = plan.config
  goodCount : plan'.goodCount = plan.goodCount
  pointCount : plan'.pointCount = plan.pointCount
  steps : ∀ j, plan'.steps.get j = plan.steps.get (order.columns j)

variable {τ : Type} {S R : ℕ} {tracer : Tracer ℚ τ S R} {builder : ResidualBuilder ℚ τ S R}
  {appraisal : Appraisal S R} {seen : τ → Seen S R}

section Setup

variable [Planar ℚ] {surfaces rays surfaces' rays' : List Adjustable}

theorem Stepped.reordered {first : World ℚ τ S R} {userStep : ℚ}
    {steps : Vector ℚ (surfaces.length + rays.length)}
    (stepped : Stepped tracer first userStep surfaces rays steps)
    (order : Order surfaces rays surfaces' rays') :
    Stepped tracer first userStep surfaces' rays'
      (Vector.ofFn fun j => steps.get (order.columns j)) where
  surface j := by
    rw [vector_get_ofFn, order.columns_castAdd, order.surface]
    exact stepped.surface (order.surfacePlaces j)
  ray j := by
    rw [vector_get_ofFn, order.columns_natAdd, order.ray]
    exact stepped.ray (order.rayPlaces j)

variable {options : Options ℚ} {wavefrontGoal : Bool} {planned : Plan ℚ} {rms : ℚ}
  {world ready : World ℚ τ S R}

/-- What can be set up in one order can be in the other. -/
theorem exists_plan_reordered (decides : appraisal.Decides tracer builder seen)
    (order : Order surfaces rays surfaces' rays')
    (returned : Returns (plan tracer builder surfaces rays options wavefrontGoal) world
      (planned, rms) ready) :
    ∃ planned' rms' ready', Returns (plan tracer builder surfaces' rays' options wavefrontGoal)
        world (planned', rms') ready' ∧
      ∃ order : Order planned.surfaces planned.rays planned'.surfaces planned'.rays,
        planned.Reordered planned' order := by
  have surfaceCount : surfaces'.length = surfaces.length :=
    Fin.equiv_iff_eq.mp ⟨order.surfacePlaces⟩
  have rayCount : rays'.length = rays.length := Fin.equiv_iff_eq.mp ⟨order.rayPlaces⟩
  obtain ⟨goals, adjustables, good, agrees, steps, config, stepped, made, rfl⟩ :=
    (decides.exists_returns_plan rfl rfl).mp ⟨rms, ready, returned⟩
  rw [← surfaceCount, ← rayCount] at adjustables made
  obtain ⟨rms', ready', returned'⟩ := (decides.exists_returns_plan rfl rfl).mpr
    ⟨goals, adjustables, good, agrees, _, config, stepped.reordered order, made, rfl⟩
  refine ⟨_, rms', ready', returned', order, rfl, rfl, rfl, rfl, fun j => ?_⟩
  exact congrFun (vector_get_ofFn _) j

end Setup

namespace Session

variable {plan plan' : Plan ℚ} {good : Finset (Fin R)} {base : OpticalSystem ℚ S R}
  {order : Order plan.surfaces plan.rays plan'.surfaces plan'.rays}
  {session : Session ℚ τ S R plan} {session' : Session ℚ τ S R plan'}
  {mirror : Measured ℚ (Standing ℚ plan.adjustableCount) plan.pointCount plan.adjustableCount}
  {mirror' : Measured ℚ (Standing ℚ plan'.adjustableCount) plan'.pointCount plan'.adjustableCount}

/-- Two sessions stand alike, as the hosts of the landscapes do that they mirror: their
parameters are the same in the two orders. -/
structure Abreast (appraisal : Appraisal S R) (seen : τ → Seen S R) (good : Finset (Fin R))
    (base : OpticalSystem ℚ S R)
    (order : Order plan.surfaces plan.rays plan'.surfaces plan'.rays)
    (session : Session ℚ τ S R plan) (session' : Session ℚ τ S R plan')
    (mirror : Measured ℚ (Standing ℚ plan.adjustableCount) plan.pointCount plan.adjustableCount)
    (mirror' : Measured ℚ (Standing ℚ plan'.adjustableCount) plan'.pointCount
      plan'.adjustableCount) : Prop where
  here : Measured.Related (Mirrors appraisal seen good plan.surfaces plan.rays base)
    session.fit.host mirror
  there : Measured.Related (Mirrors appraisal seen good plan'.surfaces plan'.rays base)
    session'.fit.host mirror'
  params : mirror'.problem.params = mirror.problem.params ∘ order.columns
  solver : session'.fit.solver = session.fit.solver
  damping : 0 < session.fit.solver.damping
  iteration : session'.iteration = session.iteration
  status : session'.status = session.status

namespace Abreast

theorem system (abreast : Abreast appraisal seen good base order session session' mirror mirror') :
    session'.system = session.system := by
  have here := abreast.here.2.system
  have there := abreast.there.2.system
  rw [abreast.params] at there
  exact there.trans ((order.shifted_comp _ base).trans here.symm)

theorem ending (abreast : Abreast appraisal seen good base order session session' mirror mirror') :
    session'.ending = session.ending := by
  rw [Session.ending, Session.ending, abreast.status]

variable (decides : appraisal.Decides tracer builder seen)

include decides

theorem reported
    (abreast : Abreast appraisal seen good base order session session' mirror mirror') :
    Abreast appraisal seen good base order (session.reported builder) (session'.reported builder)
      mirror mirror' where
  here := ⟨abreast.here.1, abreast.here.2.of_seen abreast.here.2.system (decides.rms _ _)⟩
  there := ⟨abreast.there.1, abreast.there.2.of_seen abreast.there.2.system (decides.rms _ _)⟩
  params := abreast.params
  solver := abreast.solver
  damping := abreast.damping
  iteration := abreast.iteration
  status := abreast.status

variable (matched : plan.Reordered plan' order)
  (accepted : plan.config.Accepted plan.pointCount plan.adjustableCount)
  (counted : plan.goodCount = good.card)
  (points : plan.pointCount = good.card * appraisal.goalCount)

include matched accepted counted points

/-- One iteration of each. -/
theorem iterate
    (abreast : Abreast appraisal seen good base order session session' mirror mirror') :
    ∃ solver status after after' mirror mirror',
      Returns (Solver.iterate (plan.host tracer builder) plan.config session.fit.solver)
        session.fit.host (solver, status) after ∧
      Returns (Solver.iterate (plan'.host tracer builder) plan'.config session'.fit.solver)
        session'.fit.host (solver, status) after' ∧
      Measured.Related (Mirrors appraisal seen good plan.surfaces plan.rays base) after mirror ∧
      Measured.Related (Mirrors appraisal seen good plan'.surfaces plan'.rays base) after'
        mirror' ∧
      mirror'.problem.params = mirror.problem.params ∘ order.columns ∧ 0 < solver.damping := by
  have agrees : (problem tracer builder plan.surfaces plan.rays plan.goodCount).Agrees
      (around appraisal good plan.surfaces plan.rays plan.pointCount base).problem
      (Mirrors appraisal seen good plan.surfaces plan.rays base) :=
    counted ▸ decides.agrees_problem points base
  have agrees' : (problem tracer builder plan'.surfaces plan'.rays plan'.goodCount).Agrees
      (around appraisal good plan'.surfaces plan'.rays plan'.pointCount base).problem
      (Mirrors appraisal seen good plan'.surfaces plan'.rays base) := by
    rw [matched.goodCount, counted]
    exact decides.agrees_problem (matched.pointCount.trans points) base
  rw [order.around_eq appraisal good matched.pointCount] at agrees'
  have nonneg : ∀ place sos, (around appraisal good plan.surfaces plan.rays plan.pointCount
      base).sos place = some sos → 0 ≤ sos := by
    intro place sos evaluated
    obtain ⟨_, rfl⟩ := of_sos_around evaluated
    exact appraisal.sos_nonneg _ _
  obtain ⟨ending, after, after', returned, returned', standing, standing', positive⟩ :=
    Solver.iterate_reordered (Landscape.follows _) (Landscape.follows _) nonneg matched.steps
      accepted abreast.damping rfl abreast.params
  obtain ⟨found, called, related⟩ := ((agrees.host plan.steps).iterate plan.config
    session.fit.solver).symm.of_returns abreast.here returned
  obtain ⟨found', called', related'⟩ := ((agrees'.host plan'.steps).iterate plan.config
    session.fit.solver).symm.of_returns abreast.there returned'
  rw [← matched.config, ← abreast.solver] at called'
  refine ⟨_, _, found, found', after, after', called, called', related, related', ?_, positive⟩
  rw [standing', standing]

/-- One tick of each. -/
theorem tick
    (abreast : Abreast appraisal seen good base order session session' mirror mirror') :
    ∃ status final final' mirror mirror',
      Returns (tick tracer builder) session status final ∧
      Returns (Session.tick tracer builder) session' status final' ∧
      Abreast appraisal seen good base order final final' mirror mirror' := by
  simp only [Session.tick, returns_tickOn, abreast.ending, matched.maxIterations, abreast.iteration]
  cases session.ending with
  | some ending =>
      exact ⟨ending, session, session', mirror, mirror', ⟨rfl, rfl⟩, ⟨rfl, rfl⟩, abreast⟩
  | none =>
      simp only
      split
      · have capped : Abreast appraisal seen good base order
            { session with iteration := session.iteration + 1, status := some .max }
            { session' with iteration := session.iteration + 1, status := some .max }
            mirror mirror' :=
          { abreast with iteration := rfl, status := rfl }
        exact ⟨.max, _, _, mirror, mirror', ⟨rfl, rfl⟩, ⟨rfl, rfl⟩, capped.reported decides⟩
      · obtain ⟨solver, status, after, after', mirror, mirror', called, called', here, there,
          params, positive⟩ := abreast.iterate decides matched accepted counted points
        have moved : Abreast appraisal seen good base order
            { session with
              fit := { host := after, solver }
              iteration := session.iteration + 1
              status := some status }
            { session' with
              fit := { host := after', solver }
              iteration := session.iteration + 1
              status := some status } mirror mirror' :=
          ⟨here, there, params, rfl, positive, rfl, rfl⟩
        exact ⟨status, _, _, mirror, mirror',
          ⟨solver, _, Fit.returns_iterate.mpr ⟨after, called, rfl⟩, rfl⟩,
          ⟨solver, _, Fit.returns_iterate.mpr ⟨after', called', rfl⟩, rfl⟩, moved.reported decides⟩

/-- Any number of ticks. -/
theorem after
    (abreast : Abreast appraisal seen good base order session session' mirror mirror') (ticks : ℕ) :
    ∃ mirror mirror', Abreast appraisal seen good base order (session.after tracer builder ticks)
      (session'.after tracer builder ticks) mirror mirror' := by
  induction ticks with
  | zero => exact ⟨mirror, mirror', abreast⟩
  | succ ticks ih =>
      obtain ⟨mirror, mirror', abreast⟩ := ih
      obtain ⟨status, final, final', mirror, mirror', ticked, ticked', abreast⟩ :=
        abreast.tick decides matched accepted counted points
      obtain rfl : session.after tracer builder (ticks + 1) = final := ticked.2
      obtain rfl : session'.after tracer builder (ticks + 1) = final' := ticked'.2
      exact ⟨mirror, mirror', abreast⟩

theorem runWithin
    (abreast : Abreast appraisal seen good base order session session' mirror mirror') (fuel : ℕ) :
    ∃ reports reports' final final' mirror mirror',
      Returns (runWithin tracer builder fuel) session reports final ∧
      Returns (Session.runWithin tracer builder fuel) session' reports' final' ∧
      Abreast appraisal seen good base order final final' mirror mirror' := by
  induction fuel generalizing session session' mirror mirror' with
  | zero =>
      refine ⟨[], [], session, session', mirror, mirror', ?_, ?_, abreast⟩
      · exact Act.returns_pure.mpr ⟨rfl, rfl⟩
      · exact Act.returns_pure.mpr ⟨rfl, rfl⟩
  | succ fuel ih =>
      have complete : session'.complete = session.complete :=
        congrArg Option.isSome abreast.ending
      simp only [Session.runWithin, returns_runWithinOn_succ, complete]
      split
      · exact ⟨[], [], session, session', mirror, mirror', ⟨rfl, rfl⟩, ⟨rfl, rfl⟩, abreast⟩
      · obtain ⟨status, next, next', mirror, mirror', ticked, ticked', abreast⟩ :=
          abreast.tick decides matched accepted counted points
        obtain ⟨reports, reports', final, final', mirror, mirror', returned, returned', abreast⟩ :=
          ih abreast
        exact ⟨_, _, final, final', mirror, mirror',
          ⟨status, next, reports, ticked, returned, rfl⟩,
          ⟨status, next', reports', ticked', returned', rfl⟩, abreast⟩

end Abreast

section Start

variable [Planar ℚ] {surfaces rays surfaces' rays' : List Adjustable} {options : Options ℚ}
  {wavefrontGoal : Bool} {planned planned' : Plan ℚ} {rms rms' : ℚ}
  {world ready ready' : World ℚ τ S R} (decides : appraisal.Decides tracer builder seen)

include decides

/-- A session that was just set up mirrors the landscape around its own tables. -/
theorem mirrors_start
    (returned : Returns (Adjust.plan tracer builder surfaces rays options wavefrontGoal) world
      (planned, rms) ready) :
    Mirrors appraisal seen (appraisal.traces world.system) planned.surfaces planned.rays
      world.system (start planned ready rms).fit.host.problem
      ⟨0, appraisal.residuals world.system (appraisal.traces world.system)⟩ where
  system := (system_of_returns_plan returned).trans (shifted_zero _).symm
  good := congrArg Seen.good (decides.sees_ready returned)
  residuals := congrArg (fun seen => appraisal.residuals seen.figured seen.good)
    (decides.sees_ready returned)

theorem abreast_start
    {order : Order planned.surfaces planned.rays planned'.surfaces planned'.rays}
    (matched : planned.Reordered planned' order)
    (accepted : planned.config.Accepted planned.pointCount planned.adjustableCount)
    (returned : Returns (Adjust.plan tracer builder surfaces rays options wavefrontGoal) world
      (planned, rms) ready)
    (returned' : Returns (Adjust.plan tracer builder surfaces' rays' options wavefrontGoal) world
      (planned', rms') ready') :
    ∃ mirror mirror', Abreast appraisal seen (appraisal.traces world.system) world.system order
      (start planned ready rms) (start planned' ready' rms') mirror mirror' :=
  ⟨Problem.initial _, Problem.initial _, {
    here := ⟨rfl, mirrors_start decides returned⟩
    there := ⟨rfl, mirrors_start decides returned'⟩
    params := rfl
    solver := congrArg State.initial matched.config
    damping := accepted.initialDamping
    iteration := rfl
    status := rfl }⟩

end Start

end Session

/-- The order in which parameters and residuals are listed is immaterial.

Deterministic hosts that list the same parameters and the same residuals in two orders
answer all their calls alike, and keep the same parameters. And an adjustment whose
bench answers by the tables, with its adjustables of the surfaces and those of the
rays in any other order, is set up as well, and tick by tick it has the same tables
and the same status; so has its run. -/
theorem order_immaterial :
    (∀ {m n : ℕ} {σ τ : Type} {problem : Problem ℚ σ} {reordered : Problem ℚ τ}
      {landscape : Landscape ℚ m n} {stands standsReordered}
      (columns : Equiv.Perm (Fin n)) (rows : Equiv.Perm (Fin m)) {steps steps' : Vector ℚ n}
      {tolerance boost shrink : ℚ} {range : Solver.DampingRange ℚ} {config : Config ℚ}
      {state : State ℚ} {params : Fin n → ℚ} {before : Measured ℚ σ m n}
      {beforeReordered : Measured ℚ τ m n},
      problem.Follows landscape stands →
      reordered.Follows (landscape.reordered columns rows) standsReordered →
      (∀ place sos, landscape.sos place = some sos → 0 ≤ sos) →
      (∀ j, steps'.get j = steps.get (columns j)) →
      Config.make n m tolerance range boost shrink = .ok config → 0 < state.damping →
      stands params before.problem → standsReordered (params ∘ columns) beforeReordered.problem →
      ∀ count, ∃ answers place after afterReordered, answers.length = count ∧
        Calls (problem.host steps) config state before answers after ∧
        Calls (reordered.host steps') config state beforeReordered answers afterReordered ∧
        stands place after.problem ∧ standsReordered (place ∘ columns) afterReordered.problem) ∧
    ∀ {τ : Type} {S R : ℕ} [Planar ℚ] {tracer : Tracer ℚ τ S R} {builder : ResidualBuilder ℚ τ S R}
      {appraisal : Appraisal S R} {seen : τ → Seen S R}
      {surfaces rays surfaces' rays' : List Adjustable} {options : Options ℚ}
      {wavefrontGoal : Bool} {planned : Plan ℚ} {rms : ℚ} {world ready : World ℚ τ S R},
      appraisal.Decides tracer builder seen → surfaces'.Perm surfaces → rays'.Perm rays →
      Returns (plan tracer builder surfaces rays options wavefrontGoal) world (planned, rms) ready →
      ∃ planned' rms' ready',
        Returns (plan tracer builder surfaces' rays' options wavefrontGoal) world (planned', rms')
          ready' ∧
        let start := Session.start planned ready rms
        let start' := Session.start planned' ready' rms'
        (∀ ticks, let session := start.after tracer builder
          let session' := start'.after tracer builder
          (session' ticks).system = (session ticks).system ∧
          (session' ticks).status = (session ticks).status ∧
          ∃ status,
            Returns (Session.tick tracer builder) (session ticks) status (session (ticks + 1)) ∧
            Returns (Session.tick tracer builder) (session' ticks) status (session' (ticks + 1))) ∧
        ∃ status reports reports' final final',
          Returns (Session.run tracer builder) start (status, reports) final ∧
          Returns (Session.run tracer builder) start' (status, reports') final' ∧
          final'.system = final.system := by
  constructor
  · intro m n σ τ problem reordered landscape stands standsReordered columns rows steps steps'
      tolerance boost shrink range config state params before beforeReordered follows
      followsReordered nonneg stepsAre made positive standing standingReordered count
    exact Solver.calls_reordered follows followsReordered nonneg stepsAre
      (Config.accepted_of_make made) positive standing standingReordered count
  · intro τ S R _ tracer builder appraisal seen surfaces rays surfaces' rays' options wavefrontGoal
      planned rms world ready decides surfacesSame raysSame returned
    obtain ⟨order⟩ := Order.of_perm surfacesSame raysSame
    obtain ⟨planned', rms', ready', returned', order, matched⟩ :=
      exists_plan_reordered decides order returned
    obtain ⟨counted, points, terms⟩ := decides.counts returned
    have accepted := accepted_of_returns_plan returned terms
    obtain ⟨mirror, mirror', abreast⟩ :=
      Session.abreast_start decides matched accepted returned returned'
    refine ⟨planned', rms', ready', returned', fun ticks => ?_, ?_⟩
    · obtain ⟨mirror, mirror', abreast⟩ :=
        abreast.after decides matched accepted counted points ticks
      obtain ⟨status, final, final', _, _, ticked, ticked', _⟩ :=
        abreast.tick decides matched accepted counted points
      refine ⟨abreast.system, abreast.status, status, ?_, ?_⟩
      · rwa [Session.after, ticked.2]
      · rwa [Session.after, ticked'.2]
    · obtain ⟨reports, reports', final, final', _, _, ran, ran', abreast⟩ :=
        abreast.runWithin decides matched accepted counted points
          (planned.options.maxIterations.toNat + 1)
      refine ⟨final.status, reports, reports', final, final', Session.returns_runOn.mpr ⟨ran, rfl⟩,
        Session.returns_runOn.mpr ⟨?_, abreast.status.symm⟩, abreast.system⟩
      rwa [matched.maxIterations]

/-- A bowl that is steeper one way than the other, and ends on one side. -/
def bowl : Landscape ℚ 2 2 where
  sos place := if place 0 ≤ 3 then some ((place 0 - 1) ^ 2 + (2 * place 1) ^ 2) else none
  residuals place := ![place 0 - 1, 2 * place 1]

def bowlConfig : Config ℚ where
  tolerance := 1 / 10
  paramCount := 2
  pointCount := 2
  initialDamping := 1
  maxDamping := 100
  boost := 2
  shrink := 1 / 2

theorem bowl_nonneg : ∀ place sos, bowl.sos place = some sos → 0 ≤ sos := by
  intro place sos evaluated
  simp only [bowl, Option.ite_none_right_eq_some, Option.some.injEq] at evaluated
  obtain ⟨_, rfl⟩ := evaluated
  positivity

theorem edge_decides {S : ℕ} : (edge : Appraisal S 1).Decides edgeTracer edge.builder id where
  buildRays := edge_answers.buildRays
  isGood ray :=
    ⟨fun _ seen => decide (∃ good ∈ seen.good, (good : ℤ) = ray), fun _ _ => rfl⟩
  rayOutput _ _ _ := ⟨fun _ _ => 0, fun _ _ => rfl⟩
  updateOrientations _ _ := rfl
  pointCount := edge_answers.pointCount
  residuals := edge_answers.residuals
  sos := edge_answers.sos
  rms _ _ := rfl
  compute := edge_answers.compute

theorem order_immaterial_edge :
    (∃ answers place after afterReordered, answers.length = 3 ∧
      Calls (bowl.problem.host #v[1 / 2, 1 / 4]) bowlConfig (.initial bowlConfig)
        (Problem.initial ⟨0, []⟩ : Measured ℚ (Standing ℚ 2) 2 2) answers after ∧
      Calls ((bowl.reordered (Equiv.swap 0 1) (Equiv.swap 0 1)).problem.host #v[1 / 4, 1 / 2])
        bowlConfig (.initial bowlConfig)
        (Problem.initial ⟨0, []⟩ : Measured ℚ (Standing ℚ 2) 2 2) answers afterReordered ∧
      after.problem.params = place ∧
      afterReordered.problem.params = place ∘ (Equiv.swap 0 1 : Equiv.Perm (Fin 2))) ∧
    ∃ planned rms ready planned' rms' ready',
      Returns (edgePlan [gangedShape, ⟨0, 1, []⟩]) (edgeWorld (S := 3) 1) (planned, rms) ready ∧
      Returns (edgePlan [⟨0, 1, []⟩, gangedShape]) (edgeWorld (S := 3) 1) (planned', rms') ready' ∧
      ((Session.start planned' ready' rms').after edgeTracer edge.builder 2).system =
        ((Session.start planned ready rms).after edgeTracer edge.builder 2).system := by
  have made : Config.make 2 2 (1 / 10) ⟨1, 100⟩ 2 (1 / 2) = .ok bowlConfig := by
    with_unfolding_all rfl
  have stepsAre : ∀ j : Fin 2, (#v[1 / 4, 1 / 2] : Vector ℚ 2).get j =
      (#v[1 / 2, 1 / 4] : Vector ℚ 2).get ((Equiv.swap 0 1 : Equiv.Perm (Fin 2)) j) := by
    decide +kernel
  obtain ⟨⟨planned, rms⟩, ready, returned⟩ : ∃ answer after,
      Returns (edgePlan [gangedShape, ⟨0, 1, []⟩]) (edgeWorld (S := 3) 1) answer after :=
    Act.exists_returns (by decide +kernel)
  let planar := axial
  obtain ⟨planned', rms', ready', returned', ticks, _⟩ := order_immaterial.2 edge_decides
    (List.Perm.swap _ _ _) (List.Perm.refl _) returned
  refine ⟨order_immaterial.1 (Equiv.swap 0 1) (Equiv.swap 0 1) bowl.follows (Landscape.follows _)
    bowl_nonneg stepsAre made (by decide +kernel) rfl rfl 3, ?_⟩
  exact ⟨planned, rms, ready, planned', rms', ready', returned, returned', (ticks 2).1⟩

end OpticTune.Adjust
