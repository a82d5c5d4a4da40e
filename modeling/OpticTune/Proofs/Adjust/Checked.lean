import OpticTune.Proofs.Adjust.Ticks
import OpticTune.Proofs.Checked

namespace OpticTune

/-! Changes refused where a cell is out of reach.

A change in reach is the one that is made without looking, and any other is
refused. So a session on the checked host of its plan goes as on the plan's own
host, until it is stopped.
-/

open Act (Checked Returns Stops)
open Optics
open Solver (Config Fault Fit Host Measured Problem Status)

variable {α τ : Type} {S R : Nat}

namespace Adjust

section Moves

variable [Scalar α]

theorem checked_gang {rows columns : Nat}
    {nudge : OpticalSystem α S R → Int → Int → α → Except PlaceError (OpticalSystem α S R)}
    {total : OpticalSystem α S R → Int → Int → α → OpticalSystem α S R}
    (nudges : Nudges rows columns nudge total) (adjustable : Adjustable) (amount : α) :
    Checked (checkedGang nudge adjustable amount) (isMovable rows columns adjustable) .tooFar
      fun system => adjustable.links.foldl
        (fun system link => total system link.record adjustable.column (carried link amount))
        (total system adjustable.record adjustable.column amount) := by
  refine (nudges.checked adjustable.record adjustable.column amount).andThen
    (Act.checked_forM (fun link => Act.checked_change fun system => ?_) _)
  -- A link is refused for its sign before its cell is looked at.
  rw [checkedCarried]
  cases Word.holds link.sign with
  | true => exact nudges system link.record adjustable.column (carried link amount)
  | false => rfl

/-- The cell that goes along with a SHAPE is in reach if the SHAPE is. -/
theorem aspher_writable {adjustable : Adjustable}
    (movable : isMovable S Surface.columnCount adjustable = true) :
    isCellWritable S Surface.columnCount adjustable.record Surface.aspher = true := by
  obtain ⟨master, -⟩ := Bool.and_eq_true_iff.mp movable
  obtain ⟨row, -⟩ := Bool.and_eq_true_iff.mp master
  exact Bool.and_eq_true_iff.mpr ⟨row, by decide⟩

theorem checked_moveSurface (adjustable : Adjustable) (amount : α) :
    Checked (checkedMoveSurface (S := S) (R := R) adjustable amount)
      (isMovable S Surface.columnCount adjustable) .tooFar
      fun system => moveSurface system adjustable amount := by
  have gang := checked_gang (nudges_surface (S := S) (R := R)) adjustable amount
  by_cases shape : adjustable.column = Surface.shape
  · have both := gang.andThen (nudges_surface.checked adjustable.record Surface.aspher amount)
    have same : (isMovable S Surface.columnCount adjustable &&
        isCellWritable S Surface.columnCount adjustable.record Surface.aspher) =
          isMovable S Surface.columnCount adjustable :=
      Bool.and_eq_left_iff_imp.mpr aspher_writable
    simp only [checkedMoveSurface, moveSurface, shape, ↓reduceIte]
    rw [same, shape] at both
    exact both
  · simp only [checkedMoveSurface, moveSurface, shape, ↓reduceIte, bind_pure_unit]
    exact gang

theorem checked_moveRay (adjustable : Adjustable) (amount : α) :
    Checked (checkedMoveRay (S := S) (R := R) adjustable amount)
      (isMovable R RayAttribute.columnCount adjustable) .tooFar
      fun system => moveRay system adjustable amount :=
  checked_gang nudges_ray adjustable amount

theorem checked_moveSurfaces (entries : List (Adjustable × α)) :
    Checked (entries.forM fun entry => checkedMoveSurface (S := S) (R := R) entry.1 entry.2)
      (entries.all fun entry => isMovable S Surface.columnCount entry.1) .tooFar
      fun system => entries.foldl (fun system entry => moveSurface system entry.1 entry.2) system :=
  Act.checked_forM (fun entry : Adjustable × α =>
    checked_moveSurface (S := S) (R := R) entry.1 entry.2) entries

theorem checked_moveRays (entries : List (Adjustable × α)) :
    Checked (entries.forM fun entry => checkedMoveRay (S := S) (R := R) entry.1 entry.2)
      (entries.all fun entry => isMovable R RayAttribute.columnCount entry.1) .tooFar
      fun system => entries.foldl (fun system entry => moveRay system entry.1 entry.2) system :=
  Act.checked_forM (fun entry : Adjustable × α =>
    checked_moveRay (S := S) (R := R) entry.1 entry.2) entries

/-- Whether the adjustables that a change gives amounts for can be moved does not
depend on the amounts. -/
theorem all_zip {β : Type} (adjustables : List Adjustable) (delta : List β)
    (movable : Adjustable → Bool) :
    ((adjustables.zip delta).all fun entry => movable entry.1) =
      (adjustables.take delta.length).all movable := by
  induction adjustables generalizing delta with
  | nil => simp
  | cons adjustable rest ih =>
      cases delta with
      | nil => rfl
      | cons amount others => exact congrArg (movable adjustable && ·) (ih others)

theorem checked_apply (tracer : Tracer α τ S R) (surfaces rays : List Adjustable)
    (delta : List α) :
    Checked (checkedApply tracer surfaces rays delta) (isInReach S R surfaces rays delta.length)
      .tooFar fun world => (apply tracer surfaces rays delta world).state := by
  have moveSurfaces := (checked_moveSurfaces (S := S) (R := R) (surfaces.zip delta)).onSystem
    (τ := τ)
  have moveRays := (checked_moveRays (S := S) (R := R)
    (rays.zip (delta.drop surfaces.length))).onSystem (τ := τ)
  rw [all_zip] at moveSurfaces moveRays
  rw [List.length_drop] at moveRays
  unfold checkedApply apply
  split
  · exact moveSurfaces.andThen ((Act.checked_lift _).andThen moveRays)
  · exact moveSurfaces.andThen moveRays

section Apply

variable {tracer : Tracer α τ S R} {surfaces rays : List Adjustable} {delta : List α}
  {before after : World α τ S R}

theorem returns_checkedApply :
    Returns (checkedApply tracer surfaces rays delta) before () after ↔
      isInReach S R surfaces rays delta.length = true ∧
        after = (apply tracer surfaces rays delta before).state :=
  (checked_apply tracer surfaces rays delta).returns_iff

theorem stops_checkedApply {error : PlaceError} :
    Stops (checkedApply tracer surfaces rays delta) before error ↔
      isInReach S R surfaces rays delta.length = false ∧ error = .tooFar :=
  (checked_apply tracer surfaces rays delta).stops_iff

section Refused

variable {moved rest : List Adjustable} {adjustable : Adjustable} {amounts others : List α}
  {amount : α} (sizes : moved.length = amounts.length)
  (movable : moved.all (isMovable S Surface.columnCount) = true)
  (stuck : isMovable S Surface.columnCount adjustable = false)

include sizes movable stuck

theorem state_moveSurfaces_refused (system : OpticalSystem α S R) :
    ((((moved ++ adjustable :: rest).zip (amounts ++ amount :: others)).forM fun entry =>
        checkedMoveSurface entry.1 entry.2).run system).state =
      ((checkedMoveSurface adjustable amount).run (moveSurfaces moved amounts system)).state := by
  let allows : Adjustable × α → Bool := fun entry => isMovable S Surface.columnCount entry.1
  have earlier : (moved.zip amounts).all allows = true := by
    rw [all_zip, ← sizes, List.take_length]
    exact movable
  have refused : allows (adjustable, amount) = false := stuck
  have made : moveSurfaces moved amounts system =
      (moved.zip amounts).foldl (fun system entry => moveSurface system entry.1 entry.2) system :=
    rfl
  rw [List.zip_append sizes, List.zip_cons_cons, made]
  exact Act.state_forM_refused (fun entry : Adjustable × α =>
    checked_moveSurface (S := S) (R := R) entry.1 entry.2) earlier refused _ system

/-- A change that is refused at a surface leaves the adjustables before it moved. The
tracer is not asked, and no ray is moved. -/
theorem state_checkedApply_refused :
    ((checkedApply tracer (moved ++ adjustable :: rest) rays (amounts ++ amount :: others)).run
        before).state =
      { before with
        system := ((checkedMoveSurface adjustable amount).run
          (moveSurfaces moved amounts before.system)).state } := by
  have stopped : Stops (World.onSystem (((moved ++ adjustable :: rest).zip
      (amounts ++ amount :: others)).forM fun entry => checkedMoveSurface entry.1 entry.2))
      before .tooFar := by
    refine (checked_moveSurfaces _).onSystem.refused ?_ before
    rw [List.zip_append sizes, List.zip_cons_cons, List.all_append, List.all_cons, stuck,
      Bool.false_and, Bool.and_false]
  refine stopped.state_bind.trans ?_
  exact congrArg (fun system => { before with system })
    (state_moveSurfaces_refused sizes movable stuck before.system)

end Refused

end Apply

/-- A change in reach is the one of the problem, and any other is refused. -/
theorem checked_change (tracer : Tracer α τ S R) (builder : ResidualBuilder α τ S R)
    (surfaces rays : List Adjustable) (goodCount : ℕ) (delta : List α) :
    Checked (checkedChange tracer surfaces rays delta) (isInReach S R surfaces rays delta.length)
      .tooFar fun store =>
        ((problem tracer builder surfaces rays goodCount).apply delta store).state :=
  (checked_apply tracer surfaces rays delta).within

end Moves

section Host

variable [Scalar α] {plan : Plan α} {tracer : Tracer α τ S R} {builder : ResidualBuilder α τ S R}
  {config : Config α} {state : Solver.State α} {ending : Solver.State α × Status}
  {before after : Measured α (Store α τ S R) plan.pointCount plan.adjustableCount}

theorem checkedHost_of_inReach (inReach : plan.isInReach S R = true) :
    plan.checkedHost tracer builder = plan.host tracer builder := by
  simp only [Plan.checkedHost, inReach]
  rfl

theorem length_firstChange {n : ℕ} (steps : Vector α n) :
    (Problem.firstChange steps).length = n := by
  unfold Problem.firstChange
  cases n with
  | zero => rfl
  | succ n => simp [List.finRange_succ, Problem.single]

/-- Where a cell is out of reach, no Jacobian is built. -/
theorem stops_buildJacobian (outOfReach : plan.isInReach S R = false) :
    Stops (plan.checkedHost tracer builder).buildJacobian before (.refused .tooFar) := by
  have change := checked_change tracer builder plan.surfaces plan.rays plan.goodCount
    (Problem.firstChange plan.steps)
  rw [length_firstChange] at change
  have stopped := change.refused outOfReach before.problem
  simp only [Plan.checkedHost, outOfReach, Bool.false_eq_true, ↓reduceIte]
  exact Act.stops_bind.mpr (.inl (Act.stops_adapt.mpr ⟨.tooFar, stopped, rfl⟩))

/-- An iteration that returns on the checked host returns alike on the plan's own;
where a cell is out of reach, it has failed at its start. -/
theorem returns_iterate_checkedHost :
    Returns (Solver.iterate (plan.checkedHost tracer builder) config state) before ending after ↔
      Returns (Solver.iterate (plan.host tracer builder) config state) before ending after ∧
        (plan.isInReach S R = true ∨
          Solver.hasFailed ((plan.host tracer builder).evaluate before).value = true) := by
  cases reach : plan.isInReach S R with
  | true => rw [checkedHost_of_inReach reach, and_iff_left (.inl rfl)]
  | false =>
      have evaluates : (plan.checkedHost tracer builder).evaluate =
          (plan.host tracer builder).evaluate := rfl
      simp only [Solver.iterate, Solver.returns_iterateWithin, evaluates, Bool.false_eq_true,
        false_or]
      split
      · rename_i failed
        exact (and_iff_left failed).symm
      · rename_i started
        refine iff_of_false ?_ ?_
        · rintro ⟨_, _, _, _, built, _⟩
          exact (stops_buildJacobian reach).not_returns built
        · rintro ⟨_, failed⟩
          exact started failed

theorem stops_iterate_checkedHost (outOfReach : plan.isInReach S R = false)
    (started : Solver.hasFailed ((plan.host tracer builder).evaluate before).value = false) :
    Stops (Solver.iterate (plan.checkedHost tracer builder) config state) before
      (.refused .tooFar) := by
  have evaluates : (plan.checkedHost tracer builder).evaluate =
      (plan.host tracer builder).evaluate := rfl
  unfold Solver.iterate Solver.iterateWithin
  rw [Act.stops_liftM_bind, evaluates]
  cases found : ((plan.host tracer builder).evaluate before).value with
  | none =>
      rw [found] at started
      contradiction
  | some start =>
      rw [found] at started
      simp only [started, Bool.false_eq_true, ↓reduceIte]
      exact Act.stops_bind.mpr (.inl (stops_buildJacobian outOfReach))

end Host

namespace Session

variable [Scalar α] {plan : Plan α} {tracer : Tracer α τ S R} {builder : ResidualBuilder α τ S R}
  {session final : Session α τ S R plan} {status : Status}

theorem checkedTick_of_inReach (inReach : plan.isInReach S R = true) :
    (checkedTick tracer builder : ExceptT Fault (Act α (Session α τ S R plan)) Status) =
      tick tracer builder := by
  rw [checkedTick, tick, checkedHost_of_inReach inReach]

theorem checkedRun_of_inReach (inReach : plan.isInReach S R = true) :
    (checkedRun tracer builder : ExceptT Fault (Act α (Session α τ S R plan))
      (Option Status × List (Progress α))) = run tracer builder := by
  rw [checkedRun, run, checkedHost_of_inReach inReach]

/-- Where a cell is out of reach, a tick that would iterate is stopped as soon as its
start is evaluated. -/
theorem stops_checkedTick (outOfReach : plan.isInReach S R = false)
    (running : session.ending = none)
    (further : ¬ plan.options.maxIterations ≤ (session.iteration + 1 : ℕ))
    (started : Solver.hasFailed
      ((plan.host tracer builder).evaluate session.fit.host).value = false) :
    Stops (checkedTick tracer builder) session (.refused .tooFar) := by
  have refused : Stops (Solver.iterate (plan.checkedHost tracer builder) plan.config
      session.fit.solver) session.fit.host (.refused .tooFar) :=
    stops_iterate_checkedHost outOfReach started
  have iteration : Stops (Fit.iterate (plan.checkedHost tracer builder) plan.config) session.fit
      (.refused .tooFar) :=
    Act.stops_get_bind.mpr (Act.stops_bind.mpr (.inl (Act.stops_within.mpr refused)))
  rw [checkedTick, tickOn, Act.stops_get_bind, running]
  simp only [Act.stops_modify_bind, Act.stops_get_bind, further, ↓reduceIte]
  exact Act.stops_bind.mpr (.inl (Act.stops_bind.mpr (.inl (Act.stops_within.mpr iteration))))

/-- A checked tick that returns is a tick. -/
theorem tick_of_checkedTick
    (returned : Returns (checkedTick tracer builder) session status final) :
    Returns (tick tracer builder) session status final := by
  rw [checkedTick, returns_tickOn] at returned
  rw [tick, returns_tickOn]
  cases running : session.ending with
  | some ending =>
      rw [running] at returned
      exact returned
  | none =>
      rw [running] at returned
      simp only at returned ⊢
      split
      · rename_i capped
        exact (if_pos capped).mp returned
      · rename_i further
        rw [if_neg further] at returned
        obtain ⟨solver, fit, iterated, rfl⟩ := returned
        obtain ⟨after, called, rfl⟩ := Fit.returns_iterate.mp iterated
        have unchecked := (returns_iterate_checkedHost.mp called).1
        exact ⟨solver, _, Fit.returns_iterate.mpr ⟨after, unchecked, rfl⟩, rfl⟩

/-- A checked run that returns is a run. -/
theorem run_of_checkedRun {answer : Option Status × List (Progress α)}
    (returned : Returns (checkedRun tracer builder) session answer final) :
    Returns (run tracer builder) session answer final := by
  have within (fuel : ℕ) : ∀ {session : Session α τ S R plan} {reports},
      Returns (runWithinOn (plan.checkedHost tracer builder) builder fuel) session reports final →
        Returns (runWithinOn (plan.host tracer builder) builder fuel) session reports final := by
    induction fuel with
    | zero => exact fun returned => returned
    | succ fuel ih =>
        intro session reports returned
        rw [returns_runWithinOn_succ] at returned ⊢
        split
        · rename_i complete
          exact (if_pos complete).mp returned
        · rename_i running
          rw [if_neg running] at returned
          obtain ⟨status, next, rest, ticked, returned, same⟩ := returned
          exact ⟨status, next, rest, tick_of_checkedTick ticked, ih returned, same⟩
  obtain ⟨found, reports⟩ := answer
  obtain ⟨returned, same⟩ := returns_runOn.mp returned
  exact returns_runOn.mpr ⟨within _ returned, same⟩

end Session

end Adjust

end OpticTune
