import OpticTune.Proofs.Solver.Course
import OpticTune.Proofs.Steer.Turn

namespace OpticTune.Steer

open Act (Keeps Returns)
open Optics
open Solver (Calls Config Host Measured Problem Status)

/-! Tracers that remember whether each trace succeeded.

A tracer with a memory answers as the tracer itself does, so a pass is the same
with it; and what it remembers of a ray's fit tells whether a trace of it failed. -/

variable {α τ : Type} {S R : ℕ}

def remembering (tracer : Tracer α τ S R) : Tracer α (τ × List Bool) S R where
  buildRays all := aside (tracer.buildRays all)
  isGood ray := aside (tracer.isGood ray)
  runOneRay ray := fun system (bench, traces) =>
    let answer := tracer.runOneRay ray system bench
    (answer.1, answer.2, traces ++ [answer.1])
  rayOutput ray surface output := aside (tracer.rayOutput ray surface output)
  updateOrientations := aside tracer.updateOrientations
where
  aside {β : Type} (query : Query α τ S R β) : Query α (τ × List Bool) S R β :=
    fun system (bench, traces) =>
      let answer := query system bench
      (answer.1, answer.2, traces)

/-- The course without the memory. -/
def Course.forget (course : Course α (τ × List Bool) S R) : Course α τ S R where
  world := { system := course.world.system, bench := course.world.bench.1 }
  residuals := course.residuals
  wentBad := course.wentBad

def Forgets (left : Course α τ S R) (right : Course α (τ × List Bool) S R) : Prop :=
  left = right.forget

/-- What is remembered tells whether a trace has failed. -/
def Tells (course : Course α (τ × List Bool) S R) : Prop :=
  course.wentBad = true ↔ false ∈ course.world.bench.2

section Problem

variable {β : Type} (tracer : Tracer α τ S R)

theorem agrees_aside (query : Query α τ S R β) :
    Act.Agrees Forgets (inWorld (World.ask query))
      (inWorld (World.ask (remembering.aside query))) := by
  rintro _ right rfl
  exact ⟨rfl, rfl⟩

theorem agrees_runOneRay (ray : ℤ) :
    Act.Agrees Forgets (inWorld (World.ask (tracer.runOneRay ray)))
      (inWorld (World.ask ((remembering tracer).runOneRay ray))) := by
  rintro _ right rfl
  exact ⟨rfl, rfl⟩

theorem agrees_outputs (ray surface : ℤ) (goals : List TraceAttribute) :
    Act.Agrees Forgets
      (goals.mapM fun goal => inWorld (World.ask (tracer.rayOutput ray surface goal)))
      (goals.mapM fun goal =>
        inWorld (World.ask ((remembering tracer).rayOutput ray surface goal))) := by
  induction goals with
  | nil => exact Act.agrees_pure _
  | cons goal rest ih =>
      rw [List.mapM_cons, List.mapM_cons]
      exact (agrees_aside _).bind fun _ => ih.bind fun _ => Act.agrees_pure _

/-- Asking for outputs leaves the memory as it is. -/
theorem keeps_outputs (ray surface : ℤ) (goals : List TraceAttribute) :
    Keeps Tells (goals.mapM fun goal =>
      inWorld (World.ask ((remembering tracer).rayOutput ray surface goal))) := by
  induction goals with
  | nil => exact Act.keeps_pure _
  | cons goal rest ih =>
      rw [List.mapM_cons]
      exact Keeps.bind (fun _ held => held) fun _ => ih.bind fun _ => Act.keeps_pure _

variable [Scalar α] (aim : Aim α)

theorem agrees_remembering :
    (problem tracer aim).Agrees (problem (remembering tracer) aim) Forgets where
  apply delta := by
    rintro _ right rfl
    exact ⟨rfl, rfl⟩
  evaluate := by
    refine (agrees_runOneRay tracer aim.ray).bind fun traced => ?_
    have changes {change : Course α τ S R → Course α τ S R}
        {changing : Course α (τ × List Bool) S R → Course α (τ × List Bool) S R}
        (same : ∀ course, change course.forget = (changing course).forget) :
        Act.Agrees Forgets (modify change : Act α _ PUnit) (modify changing : Act α _ PUnit) := by
      refine Act.agrees_modify ?_
      rintro _ right rfl
      exact same right
    split
    · refine (agrees_outputs tracer aim.ray _ aim.goals).bind fun outputs => ?_
      exact (changes fun _ => rfl).bind fun _ => Act.agrees_pure _
    · exact (changes fun _ => rfl).bind fun _ => Act.agrees_pure _
  residuals := by
    rintro _ right rfl
    exact ⟨rfl, rfl⟩

theorem kept_tells : (problem (remembering tracer) aim).KeptBy Tells where
  apply _ _ held := held
  evaluate := by
    intro course held
    change Tells (evaluate (remembering tracer) aim course).state
    have asked : (inWorld (World.ask ((remembering tracer).runOneRay aim.ray)) course).state =
        { course with world := { course.world with
          bench := ((tracer.runOneRay aim.ray course.world.system course.world.bench.1).2,
            course.world.bench.2 ++
              [(tracer.runOneRay aim.ray course.world.system course.world.bench.1).1]) } } := rfl
    have value : (inWorld (World.ask ((remembering tracer).runOneRay aim.ray)) course).value =
        (tracer.runOneRay aim.ray course.world.system course.world.bench.1).1 := rfl
    rw [evaluate, Act.state_bind, value, asked]
    cases (tracer.runOneRay aim.ray course.world.system course.world.bench.1).1 with
    | false => exact iff_of_true rfl (List.mem_append_right _ (List.mem_singleton.mpr rfl))
    | true =>
        have traced : Tells { course with world := { course.world with
            bench := ((tracer.runOneRay aim.ray course.world.system course.world.bench.1).2,
              course.world.bench.2 ++ [true]) } } := by
          simpa [Tells] using held
        exact (keeps_outputs tracer aim.ray _ aim.goals) traced
  residuals _ held := held

end Problem

/-- The calls a ray is approached by, up to the first that is not worth another. -/
theorem exists_calls {m n : ℕ} {host : Host ℚ (Measured ℚ (Course ℚ τ S R) m n)} {config : Config ℚ}
    {state : Solver.State ℚ} {reached : Option (Solver.State ℚ)}
    {before after : Measured ℚ (Course ℚ τ S R) m n} {iterations : ℕ}
    (good : before.problem.wentBad = false)
    (approached : Returns (approach host config iterations state) before reached after) :
    ∃ answers, Calls host config state before answers after ∧ answers.length ≤ iterations ∧
      (reached = none ↔
        after.problem.wentBad = true ∨ ∃ answer ∈ answers, answer.2 = .bad) := by
  induction iterations generalizing state before with
  | zero =>
      obtain ⟨rfl, rfl⟩ := returns_approach_zero.mp approached
      exact ⟨[], .nil, le_rfl, by simp [good]⟩
  | succ iterations ih =>
      obtain ⟨answer, middle, iterated, rest⟩ := returns_approach_succ.mp approached
      split at rest
      · rename_i failed
        obtain ⟨rfl, rfl⟩ := rest
        exact ⟨[answer], .cons iterated .nil, by simp, by simpa using failed⟩
      · rename_i passed
        obtain ⟨traced, fine⟩ := not_or.mp passed
        have good := eq_false_of_ne_true traced
        split at rest
        · obtain ⟨rfl, rfl⟩ := rest
          exact ⟨[answer], .cons iterated .nil, by simp, by simp [good, fine]⟩
        · obtain ⟨answers, calls, within, failed⟩ := ih good rest
          refine ⟨answer :: answers, .cons iterated calls, by simpa using within, ?_⟩
          simp [failed, fine]

/-- The fit of a ray by a tracer with a memory: the calls it is made of, and what
became of the traces. -/
structure Solve (pass : Pass ℚ R) (tracer : Tracer ℚ τ S R) (aim : Aim ℚ) (start : World ℚ τ S R)
    (reached : Option (Solver.State ℚ)) (finish : World ℚ τ S R)
    (answers : List (Solver.State ℚ × Status)) (traces : List Bool) : Prop where
  fitted : Returns (pass.fit (remembering tracer) aim) ⟨start.system, start.bench, []⟩ reached
    ⟨finish.system, finish.bench, traces⟩
  calls : ∃ final, Calls (Pass.host (remembering tracer) aim) pass.config (.initial pass.config)
      (Problem.initial (Course.initial aim ⟨start.system, start.bench, []⟩)) answers final ∧
    final.problem.world = ⟨finish.system, finish.bench, traces⟩
  within : answers.length ≤ pass.maxIterations

/-- A fit fails if a trace of it does, or an iteration ends badly, and only then. -/
theorem exists_solve {pass : Pass ℚ R} {tracer : Tracer ℚ τ S R} {aim : Aim ℚ}
    {start finish : World ℚ τ S R} {reached : Option (Solver.State ℚ)}
    (fitted : Returns (pass.fit tracer aim) start reached finish) :
    ∃ answers traces, Solve pass tracer aim start reached finish answers traces ∧
      (reached = none ↔ false ∈ traces ∨ ∃ answer ∈ answers, answer.2 = .bad) := by
  obtain ⟨inner, approached, rfl⟩ := returns_fit.mp fitted
  let begins : Course ℚ (τ × List Bool) S R := Course.initial aim ⟨start.system, start.bench, []⟩
  have agrees := agrees_approach ((agrees_remembering tracer aim).host (m := aim.goals.length)
    (steps aim defaultStep)) (fun _ _ same => congrArg Course.wentBad same) pass.config
    pass.maxIterations (.initial pass.config)
  let ready : Measured ℚ (Course ℚ (τ × List Bool) S R) aim.goals.length aim.adjusted.length :=
    Problem.initial begins
  have related : Measured.Related Forgets (Problem.initial (Course.initial aim start)) ready :=
    ⟨rfl, rfl⟩
  obtain ⟨final, again, -, same⟩ := agrees.of_returns related approached
  have tells : Tells final.problem := by
    refine (keeps_approach ((kept_tells tracer aim).host (m := aim.goals.length)
      (steps aim defaultStep)) _ _ _).of_returns again ?_
    simp [Tells, ready, begins, Problem.initial, Course.initial]
  obtain ⟨answers, calls, within, failed⟩ := exists_calls rfl again
  have world : final.problem.world = ⟨inner.problem.world.system, inner.problem.world.bench,
      final.problem.world.bench.2⟩ := by
    rw [same]
    rfl
  refine ⟨answers, final.problem.world.bench.2, ⟨returns_fit.mpr ⟨final, again, world.symm⟩,
    ⟨final, calls, world⟩, within⟩, ?_⟩
  exact failed.trans (or_congr_left tells)

end OpticTune.Steer
