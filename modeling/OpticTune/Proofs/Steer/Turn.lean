import OpticTune.Proofs.Solver.Config
import OpticTune.Proofs.Steer.Approach
import OpticTune.Proofs.Steer.Problem

namespace OpticTune.Steer

open Act (Returns)
open Optics
open Solver (Config Fault Problem guard_eq_ok)

/-! A pass, turn by turn.

Every ray has its turn, in the order of the table. One that does not trace then is
passed over, and one that does is steered, with nothing carried over from the
turns before but the world.
-/

variable {α τ : Type} {S R : ℕ}

section Aim

variable {ray : ℤ} {adjusted : List RayAttribute} {goals : List TraceAttribute} {values : List α}

theorem Aim.make_eq_ok {aim : Aim α} :
    Aim.make ray adjusted goals values = .ok aim ↔
      (1 ≤ adjusted.length ∧ adjusted.length ≤ mostAdjustables) ∧
        (1 ≤ goals.length ∧ goals.length ≤ mostGoals) ∧ values.length = goals.length ∧
        aim = ⟨ray, adjusted, goals, values⟩ := by
  simp only [Aim.make, guard_eq_ok, pure, Except.pure, Except.ok.injEq, eq_comm (a := aim)]

/-- With the counts that a setup lets pass, goals are only refused for theirs. -/
theorem Aim.make_eq_error {refusal : AimError}
    (adjustables : 1 ≤ adjusted.length ∧ adjusted.length ≤ mostAdjustables)
    (aimed : 1 ≤ goals.length ∧ goals.length ≤ mostGoals) :
    Aim.make ray adjusted goals values = .error refusal ↔
      refusal = .goalValues ∧ values.length ≠ goals.length := by
  rw [Aim.make, if_pos adjustables, if_pos aimed]
  by_cases fitting : values.length = goals.length
  · rw [if_pos fitting]
    exact iff_of_false nofun fun misfits => misfits.2 fitting
  · rw [if_neg fitting, and_iff_left fitting]
    exact ⟨fun same => (Except.error.inj same).symm, fun same => congrArg Except.error same.symm⟩

end Aim

/-- How a ray's turn counts. -/
def Tally.after (tally : Tally) : Option Bool → Tally
  | .none => tally
  | .some adjusted => tally.count adjusted

theorem foldl_after (verdicts : List (Option Bool)) (tally : Tally) :
    verdicts.foldl Tally.after tally = {
      starts := tally.starts + verdicts.countP Option.isSome
      adjusted := tally.adjusted + verdicts.count (some true)
      failed := tally.failed + verdicts.count (some false) } := by
  induction verdicts generalizing tally with
  | nil => rfl
  | cons verdict rest ih =>
      rw [List.foldl_cons, ih]
      match verdict with
      | none => simp [Tally.after]
      | some true => simp [Tally.after, Tally.count, Nat.add_comm 1, Nat.add_assoc]
      | some false => simp [Tally.after, Tally.count, Nat.add_comm 1, Nat.add_assoc]

variable [Scalar α]

/-- What a turn comes to: nothing for a ray that does not trace, otherwise whether
it was steered without failing. -/
inductive Turn (pass : Pass α R) (tracer : Tracer α τ S R) (ray : Fin R) (before : World α τ S R) :
    Option Bool → World α τ S R → Prop where
  | passedOver :
      (tracer.runOneRay ray before.system before.bench).1 = false →
      Turn pass tracer ray before none (World.ask (tracer.runOneRay ray) before).state
  | steered {aim : Aim α} {reached : Option (Solver.State α)} {after : World α τ S R} :
      (tracer.runOneRay ray before.system before.bench).1 = true →
      Aim.make ray pass.adjusted pass.goals (pass.goalValues.get ray) = .ok aim →
      Returns (pass.fit tracer aim) (World.ask (tracer.runOneRay ray) before).state reached after →
      Turn pass tracer ray before (some reached.isSome) after

variable {pass : Pass α R} {tracer : Tracer α τ S R} {before after : World α τ S R}

theorem Turn.unique {ray : Fin R} {verdict other : Option Bool} {after final : World α τ S R}
    (turn : Turn pass tracer ray before verdict after)
    (again : Turn pass tracer ray before other final) : verdict = other ∧ after = final := by
  cases turn with
  | passedOver answered =>
      cases again with
      | passedOver _ => exact ⟨rfl, rfl⟩
      | steered traced _ _ => exact nomatch answered.symm.trans traced
  | steered traced made fitted =>
      cases again with
      | passedOver answered => exact nomatch answered.symm.trans traced
      | steered _ remade refitted =>
          cases Except.ok.inj (made.symm.trans remade)
          obtain ⟨rfl, rfl⟩ := fitted.unique refitted
          exact ⟨rfl, rfl⟩

section Visit

variable {ray : Fin R}

theorem returns_steer {adjusted : Bool} :
    Returns (pass.steer tracer ray) before adjusted after ↔
      ∃ aim, Aim.make ray pass.adjusted pass.goals (pass.goalValues.get ray) = .ok aim ∧
        ∃ reached, Returns (pass.fit tracer aim) before reached after ∧
          adjusted = reached.isSome := by
  unfold Pass.steer
  cases made : Aim.make ray pass.adjusted pass.goals (pass.goalValues.get ray) with
  | error error => simp
  | ok aim =>
      simp only [Except.ok.injEq, exists_eq_left']
      rw [Act.returns_bind]
      constructor
      · rintro ⟨reached, middle, fitted, rest⟩
        refine ⟨reached, ?_⟩
        cases reached with
        | some state =>
            simp only [Act.returns_note_bind, Act.returns_pure] at rest
            obtain ⟨rfl, rfl⟩ := rest
            exact ⟨Act.returns_adapt.mp fitted, rfl⟩
        | none =>
            simp only [Act.returns_note_bind, Act.returns_pure] at rest
            obtain ⟨rfl, rfl⟩ := rest
            exact ⟨Act.returns_adapt.mp fitted, rfl⟩
      · rintro ⟨reached, fitted, rfl⟩
        refine ⟨reached, after, Act.returns_adapt.mpr fitted, ?_⟩
        cases reached with
        | some state => exact Act.returns_note_bind.mpr (Act.returns_pure.mpr ⟨rfl, rfl⟩)
        | none => exact Act.returns_note_bind.mpr (Act.returns_pure.mpr ⟨rfl, rfl⟩)

theorem returns_visit {tally answer : Tally} :
    Returns (pass.visit tracer tally ray) before answer after ↔
      ∃ verdict, Turn pass tracer ray before verdict after ∧ answer = tally.after verdict := by
  unfold Pass.visit
  rw [Act.returns_bind]
  constructor
  · rintro ⟨traced, middle, asked, rest⟩
    obtain ⟨answered, rfl⟩ := Act.returns_lift.mp asked
    cases traced with
    | false =>
        obtain ⟨rfl, rfl⟩ := Act.returns_pure.mp rest
        exact ⟨none, .passedOver answered, rfl⟩
    | true =>
        obtain ⟨adjusted, _, steered, counted⟩ := Act.returns_bind.mp rest
        obtain ⟨aim, made, reached, fitted, rfl⟩ := returns_steer.mp steered
        obtain ⟨rfl, rfl⟩ := Act.returns_pure.mp counted
        exact ⟨_, .steered answered made fitted, rfl⟩
  · rintro ⟨verdict, turn, rfl⟩
    cases turn with
    | passedOver answered =>
        exact ⟨false, _, Act.returns_lift.mpr ⟨answered, rfl⟩, Act.returns_pure.mpr ⟨rfl, rfl⟩⟩
    | steered answered made fitted =>
        refine ⟨true, _, Act.returns_lift.mpr ⟨answered, rfl⟩, Act.returns_bind.mpr ?_⟩
        exact ⟨_, _, returns_steer.mpr ⟨_, made, _, fitted, rfl⟩, Act.returns_pure.mpr ⟨rfl, rfl⟩⟩

end Visit

theorem returns_fit {aim : Aim α} {reached : Option (Solver.State α)} :
    Returns (pass.fit tracer aim) before reached after ↔
      ∃ inner, Returns (approach (Pass.host tracer aim) pass.config pass.maxIterations
          (.initial pass.config)) (Problem.initial (Course.initial aim before)) reached inner ∧
        after = inner.problem.world :=
  Act.returns_within

theorem moved_fit {ray : Fin R} {aim : Aim α} {reached : Option (Solver.State α)}
    (aimed : aim.ray = ray) (fitted : Returns (pass.fit tracer aim) before reached after) :
    Moved ray aim.adjusted before.system after.system := by
  obtain ⟨inner, approached, rfl⟩ := returns_fit.mp fitted
  have kept := (kept_problem tracer aimed before.system).host (m := aim.goals.length)
    (steps aim defaultStep)
  exact (keeps_approach kept _ _ _).of_returns approached (.refl ..)

/-- Turns one after another, with what each comes to. -/
inductive Turns (pass : Pass α R) (tracer : Tracer α τ S R) :
    List (Fin R) → World α τ S R → List (Option Bool) → World α τ S R → Prop where
  | nil {world : World α τ S R} : Turns pass tracer [] world [] world
  | cons {ray : Fin R} {rest : List (Fin R)} {verdict : Option Bool} {verdicts : List (Option Bool)}
      {before middle after : World α τ S R} : Turn pass tracer ray before verdict middle →
      Turns pass tracer rest middle verdicts after →
      Turns pass tracer (ray :: rest) before (verdict :: verdicts) after

/-- What the rays before it in the table leave to a ray when its turn comes. -/
def Comes (pass : Pass α R) (tracer : Tracer α τ S R) (ray : Fin R)
    (before start : World α τ S R) : Prop :=
  ∃ tally, Returns (((List.finRange R).take ray).foldlM (pass.visit tracer) Tally.none) before tally
    start

theorem Comes.unique {ray : Fin R} {start other : World α τ S R}
    (comes : Comes pass tracer ray before start) (again : Comes pass tracer ray before other) :
    start = other := by
  obtain ⟨tally, returned⟩ := comes
  obtain ⟨_, second⟩ := again
  exact (returned.unique second).2

section Turns

variable {rays : List (Fin R)} {verdicts : List (Option Bool)}

theorem returns_visits {tally answer : Tally} :
    Returns (rays.foldlM (pass.visit tracer) tally) before answer after ↔
      ∃ verdicts, Turns pass tracer rays before verdicts after ∧
        answer = verdicts.foldl Tally.after tally := by
  induction rays generalizing tally before with
  | nil =>
      constructor
      · intro returned
        obtain ⟨rfl, rfl⟩ := Act.returns_pure.mp returned
        exact ⟨[], .nil, rfl⟩
      · rintro ⟨_, ⟨⟩, rfl⟩
        exact Act.returns_pure.mpr ⟨rfl, rfl⟩
  | cons ray rest ih =>
      rw [List.foldlM_cons, Act.returns_bind]
      constructor
      · rintro ⟨_, middle, visited, rest⟩
        obtain ⟨verdict, turn, rfl⟩ := returns_visit.mp visited
        obtain ⟨verdicts, turns, rfl⟩ := ih.mp rest
        exact ⟨verdict :: verdicts, .cons turn turns, rfl⟩
      · rintro ⟨_, turn | ⟨turn, turns⟩, rfl⟩
        exact ⟨_, _, returns_visit.mpr ⟨_, turn, rfl⟩, ih.mpr ⟨_, turns, rfl⟩⟩

theorem comes_iff {ray : Fin R} {start : World α τ S R} :
    Comes pass tracer ray before start ↔
      ∃ verdicts, Turns pass tracer ((List.finRange R).take ray) before verdicts start := by
  constructor
  · rintro ⟨tally, returned⟩
    obtain ⟨verdicts, turns, -⟩ := returns_visits.mp returned
    exact ⟨verdicts, turns⟩
  · rintro ⟨verdicts, turns⟩
    exact ⟨_, returns_visits.mpr ⟨verdicts, turns, rfl⟩⟩

theorem turns_append {first second : List (Fin R)} :
    Turns pass tracer (first ++ second) before verdicts after ↔
      ∃ middle earlier later, Turns pass tracer first before earlier middle ∧
        Turns pass tracer second middle later after ∧ verdicts = earlier ++ later := by
  induction first generalizing before verdicts with
  | nil =>
      constructor
      · exact fun turns => ⟨before, [], verdicts, .nil, turns, rfl⟩
      · rintro ⟨_, _, _, ⟨⟩, turns, rfl⟩
        exact turns
  | cons ray rest ih =>
      constructor
      · intro turns
        cases turns with
        | cons turn turns =>
            obtain ⟨middle, earlier, later, sooner, more, rfl⟩ := ih.mp turns
            exact ⟨middle, _ :: earlier, later, .cons turn sooner, more, rfl⟩
      · rintro ⟨middle, _, later, turns, more, rfl⟩
        cases turns with
        | cons turn turns => exact .cons turn (ih.mpr ⟨middle, _, later, turns, more, rfl⟩)

/-- A turn changes nothing but the steered columns of the ray. -/
theorem Turn.moved {ray : Fin R} {verdict : Option Bool}
    (turn : Turn pass tracer ray before verdict after) :
    Moved ray pass.adjusted before.system after.system := by
  cases turn with
  | passedOver => exact .refl ..
  | @steered aim reached after traced made fitted =>
      obtain ⟨-, -, -, rfl⟩ := Aim.make_eq_ok.mp made
      exact moved_fit rfl fitted

theorem Turns.kept (turns : Turns pass tracer rays before verdicts after) :
    after.system.surfaces = before.system.surfaces ∧ after.system.size = before.system.size ∧
      ∀ ray, ray ∉ rays → after.system.rays.row ray = before.system.rays.row ray := by
  induction turns with
  | nil => exact ⟨rfl, rfl, fun _ _ => rfl⟩
  | cons turn _ ih =>
      obtain ⟨surfaces, size, rows⟩ := ih
      have moved := turn.moved
      refine ⟨surfaces.trans moved.surfaces, size.trans moved.size, fun ray absent => ?_⟩
      rw [List.mem_cons, not_or] at absent
      exact (rows ray absent.2).trans (moved.others ray absent.1)

theorem Turns.length_eq (turns : Turns pass tracer rays before verdicts after) :
    verdicts.length = rays.length := by
  induction turns with
  | nil => rfl
  | cons _ _ ih => exact congrArg Nat.succ ih

/-- A ray's turn in a pass, with what the other rays leave alone: it starts with
the row there was at first, and what it leaves of the row stays. -/
structure Visited (pass : Pass α R) (tracer : Tracer α τ S R) (before after : World α τ S R)
    (ray : Fin R) (start : World α τ S R) (verdict : Option Bool) (finish : World α τ S R) :
    Prop where
  comes : Comes pass tracer ray before start
  turn : Turn pass tracer ray start verdict finish
  surfaces : start.system.surfaces = before.system.surfaces
  row : start.system.rays.row ray = before.system.rays.row ray
  finalSurfaces : after.system.surfaces = finish.system.surfaces
  finalRow : after.system.rays.row ray = finish.system.rays.row ray

theorem take_append_finRange (ray : Fin R) :
    (List.finRange R).take ray ++ ray :: (List.finRange R).drop (ray + 1) = List.finRange R := by
  have here : (List.finRange R).drop ray = ray :: (List.finRange R).drop (ray + 1) := by
    rw [List.drop_eq_getElem_cons (by simp)]
    simp
  rw [← here, List.take_append_drop]

theorem Turns.visited {ray : Fin R} {rest : List (Fin R)}
    (split : (List.finRange R).take ray ++ ray :: rest = List.finRange R)
    (turns : Turns pass tracer (List.finRange R) before verdicts after) :
    ∃ start verdict finish, verdicts[ray]? = some verdict ∧
      Visited pass tracer before after ray start verdict finish := by
  have distinct := List.nodup_finRange R
  rw [← split] at turns distinct
  obtain ⟨start, earlier, _, sooner, onward, rfl⟩ := turns_append.mp turns
  have place : earlier.length = ray := by simp [sooner.length_eq]
  rw [List.nodup_append, List.nodup_cons] at distinct
  obtain ⟨-, ⟨later, -⟩, apart⟩ := distinct
  have absent : ray ∉ (List.finRange R).take ray :=
    fun member => apart ray member ray List.mem_cons_self rfl
  cases onward with
  | @cons _ _ verdict verdicts _ finish _ turn others =>
      exact ⟨start, verdict, finish, by simp [← place], {
        comes := comes_iff.mpr ⟨earlier, sooner⟩
        turn
        surfaces := sooner.kept.1
        row := sooner.kept.2.2 ray absent
        finalSurfaces := others.kept.1
        finalRow := others.kept.2.2 ray later }⟩

/-- A pass is one turn for every ray. -/
theorem Turns.exists_visited (turns : Turns pass tracer (List.finRange R) before verdicts after) :
    ∃ verdict : Fin R → Option Bool, verdicts = (List.finRange R).map verdict ∧
      ∀ ray, ∃ start finish, Visited pass tracer before after ray start (verdict ray) finish := by
  have each (ray : Fin R) : ∃ verdict, verdicts[ray]? = some verdict ∧
      ∃ start finish, Visited pass tracer before after ray start verdict finish := by
    obtain ⟨start, verdict, finish, found, visited⟩ := turns.visited (take_append_finRange ray)
    exact ⟨verdict, found, start, finish, visited⟩
  choose verdict found visited using each
  refine ⟨verdict, List.ext_getElem (by simp [turns.length_eq]) fun place _ inside => ?_, visited⟩
  have inside : place < R := by simpa using inside
  obtain ⟨_, same⟩ := List.getElem?_eq_some_iff.mp (found ⟨place, inside⟩)
  simpa using same

theorem exists_turns (distinct : rays.Nodup)
    (each : ∀ ray ∈ rays, ∀ start : World α τ S R,
      start.system.surfaces = before.system.surfaces →
      start.system.rays.row ray = before.system.rays.row ray →
      ∃ verdict finish, Turn pass tracer ray start verdict finish) :
    ∃ verdicts after, Turns pass tracer rays before verdicts after := by
  induction rays generalizing before with
  | nil => exact ⟨[], before, .nil⟩
  | cons ray rest ih =>
      obtain ⟨absent, distinct⟩ := List.nodup_cons.mp distinct
      obtain ⟨verdict, middle, turn⟩ := each ray List.mem_cons_self before rfl rfl
      have moved := turn.moved
      have others : ∀ other ∈ rest, ∀ start : World α τ S R,
          start.system.surfaces = middle.system.surfaces →
          start.system.rays.row other = middle.system.rays.row other →
          ∃ verdict finish, Turn pass tracer other start verdict finish := by
        intro other member start surfaces row
        have apart : other ≠ ray := fun same => absent (same ▸ member)
        exact each other (List.mem_cons_of_mem ray member) start (surfaces.trans moved.surfaces)
          (row.trans (moved.others other apart))
      obtain ⟨verdicts, after, turns⟩ := ih distinct others
      exact ⟨verdict :: verdicts, after, .cons turn turns⟩

end Turns

section Run

variable {measure : ExceptT Fault (Act α (World α τ S R)) (Option α)} {summary : Summary α}

theorem returns_run :
    Returns (pass.run tracer measure) before summary after ↔
      ∃ verdicts middle, Turns pass tracer (List.finRange R) before verdicts middle ∧
        ∃ rms, Returns measure middle rms after ∧
          summary = {
            rayCount := R
            goalCount := pass.goals.length
            startCount := pass.availableCount
            adjustedCount := (verdicts.foldl Tally.after Tally.none).adjusted
            failedCount := (verdicts.foldl Tally.after Tally.none).failed
            rms } := by
  unfold Pass.run
  rw [Act.returns_bind]
  have reported {tally : Tally} {rms : Option α} {middle : World α τ S R} :
      Returns (do
        if tally.starts ≠ pass.availableCount then
          Act.note (.startsDiffer pass.availableCount tally.starts)
        Act.note (.steeringDone tally.adjusted tally.failed R)
        return {
          rayCount := R
          goalCount := pass.goals.length
          startCount := pass.availableCount
          adjustedCount := tally.adjusted
          failedCount := tally.failed
          rms } : ExceptT PassFault (Act α (World α τ S R)) (Summary α)) middle summary after ↔
        summary = ⟨R, pass.goals.length, pass.availableCount, tally.adjusted, tally.failed, rms⟩ ∧
          after = middle := by
    split <;> simp only [Act.returns_note_bind, Act.returns_pure]
  constructor
  · rintro ⟨tally, middle, visited, rest⟩
    obtain ⟨verdicts, turns, rfl⟩ := returns_visits.mp visited
    obtain ⟨rms, _, measured, rest⟩ := Act.returns_bind.mp rest
    obtain ⟨rfl, rfl⟩ := reported.mp rest
    exact ⟨verdicts, middle, turns, rms, Act.returns_adapt.mp measured, rfl⟩
  · rintro ⟨verdicts, middle, turns, rms, measured, rfl⟩
    refine ⟨_, middle, returns_visits.mpr ⟨verdicts, turns, rfl⟩, Act.returns_bind.mpr ?_⟩
    exact ⟨rms, after, Act.returns_adapt.mpr measured, reported.mpr ⟨rfl, rfl⟩⟩

end Run

section Setup

variable {adjusted : List RayAttribute} {goals : List TraceAttribute}
  {goalValues : List (List α)} {maxIterations : ℤ}

theorem returns_plan :
    Returns (plan tracer adjusted goals goalValues maxIterations) before pass after ↔
      (1 ≤ adjusted.length ∧ adjusted.length ≤ mostAdjustables) ∧
        (1 ≤ goals.length ∧ goals.length ≤ mostGoals) ∧
        ∃ (rows : goalValues.length = R) (config : Config α),
          Config.usual adjusted.length goals.length tolerance .steering = .ok config ∧
          1 ≤ (World.ask (tracer.buildRays true) before).value ∧
          pass = {
            adjusted, goals, config
            goalValues := exactVector goalValues rows
            maxIterations := maxIterations.toNat
            availableCount := (World.ask (tracer.buildRays true) before).value } ∧
          after = (World.ask (tracer.buildRays true) before).state := by
  unfold plan
  simp only [Act.returns_unless, not_lt, gt_iff_lt, and_assoc]
  refine and_congr_right fun _ => and_congr_right fun _ => and_congr_right fun _ =>
    and_congr_right fun _ => ?_
  split
  · rename_i rows
    split
    · rename_i refused
      simp only [Act.returns_throw, refused, reduceCtorEq, false_and, exists_false]
    · rename_i config made
      simp only [Act.returns_bind, Act.returns_lift, Act.returns_unless, Act.returns_pure, not_lt,
        rows, made, Except.ok.injEq]
      constructor
      · rintro ⟨_, _, ⟨rfl, rfl⟩, available, rfl, rfl⟩
        exact ⟨trivial, config, rfl, available, rfl, rfl⟩
      · rintro ⟨-, _, rfl, available, rfl, rfl⟩
        exact ⟨_, _, ⟨rfl, rfl⟩, available, rfl, rfl⟩
  · rename_i ragged
    exact iff_of_false Act.returns_throw fun fits => ragged fits.fst

end Setup

end OpticTune.Steer
