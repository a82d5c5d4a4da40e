import OpticTune.Proofs.Steer.Law
import OpticTune.Proofs.Steer.Turn

namespace OpticTune.Steer

open Optics
open Solver (Measured Problem)

/-! Rays that fare alike.

Two rays, of the same table or of two, whose laws, rows and goals are the same
are steered the same way, whatever the arithmetic.
-/

variable {α τ υ : Type} {S R Q : ℕ}

structure Alike (i : Fin R) (j : Fin Q) (left : Course α τ S R) (right : Course α υ S Q) :
    Prop where
  surfaces : left.world.system.surfaces = right.world.system.surfaces
  row : left.world.system.rays.row i = right.world.system.rays.row j
  residuals : left.residuals = right.residuals
  wentBad : left.wentBad = right.wentBad

variable [Scalar α] {tracer : Tracer α τ S R} {other : Tracer α υ S Q} {law : Fin R → Law α S}
  {otherLaw : Fin Q → Law α S} {i : Fin R} {j : Fin Q}

/-- The same problem of two rays. -/
theorem agrees_problem (governed : Governed tracer law) (ruled : Governed other otherLaw)
    (same : law i = otherLaw j) {aim : Aim α} (aimed : aim.ray = i) :
    (problem tracer aim).Agrees (problem other { aim with ray := j }) (Alike i j) := by
  have otherAimed : ({ aim with ray := j } : Aim α).ray = j := rfl
  constructor
  case apply =>
    intro delta left right alike
    obtain ⟨moved, row⟩ := moved_moveRay aimed delta left.world.system
    obtain ⟨otherMoved, otherRow⟩ := moved_moveRay otherAimed delta right.world.system
    refine ⟨rfl, ?_, ?_, alike.residuals, alike.wentBad⟩
    · exact moved.surfaces.trans (alike.surfaces.trans otherMoved.surfaces.symm)
    · exact row.trans ((congrArg _ alike.row).trans otherRow.symm)
  case evaluate =>
    intro left right alike
    obtain ⟨value, bench, state⟩ := evaluate_of_law governed aimed left
    obtain ⟨otherValue, otherBench, otherState⟩ := evaluate_of_law ruled otherAimed right
    have seen : (law i).seen i left.world.system = (otherLaw j).seen j right.world.system := by
      rw [Law.seen, Law.seen, same, alike.surfaces, alike.row]
    refine ⟨by rw [problem, value, problem, otherValue, seen]; rfl, ?_⟩
    rw [problem, state, problem, otherState]
    refine ⟨alike.surfaces, alike.row, ?_, ?_⟩
    · simp only [seen, alike.residuals]
      rfl
    · simp only [seen, alike.wentBad]
      rfl
  case residuals => exact fun _ _ alike => ⟨alike.residuals, alike⟩

section Turns

variable {pass : Pass α R} {second : Pass α Q} {start finish : World α τ S R}
  {begun ended : World α υ S Q} {verdict : Option Bool}

/-- Two passes that ask the same of two rays. -/
structure AskAlike (i : Fin R) (j : Fin Q) (pass : Pass α R) (second : Pass α Q) : Prop where
  adjusted : pass.adjusted = second.adjusted
  goals : pass.goals = second.goals
  values : pass.goalValues.get i = second.goalValues.get j
  config : pass.config = second.config
  maxIterations : pass.maxIterations = second.maxIterations

theorem Turn.alike (governed : Governed tracer law) (ruled : Governed other otherLaw)
    (same : law i = otherLaw j) (asked : AskAlike i j pass second)
    (surfaces : start.system.surfaces = begun.system.surfaces)
    (row : start.system.rays.row i = begun.system.rays.row j)
    (turn : Turn pass tracer i start verdict finish) :
    ∃ ended : World α υ S Q, Turn second other j begun verdict ended ∧
      finish.system.rays.row i = ended.system.rays.row j := by
  obtain ⟨adjusted, goals, goalValues, config, maxIterations, _⟩ := pass
  obtain ⟨_, _, otherValues, _, _, _⟩ := second
  obtain ⟨rfl, rfl, values, rfl, rfl⟩ := asked
  simp only at values
  have seen : (law i).seen i start.system = (otherLaw j).seen j begun.system := by
    rw [Law.seen, Law.seen, same, surfaces, row]
  have traces : (tracer.runOneRay i start.system start.bench).1 =
      (other.runOneRay j begun.system begun.bench).1 := by
    rw [governed.run, ruled.run, seen]
  cases turn with
  | passedOver answered => exact ⟨_, .passedOver (traces ▸ answered), row⟩
  | steered answered made fitted =>
      obtain ⟨adjustables, aimed, one, rfl⟩ := Aim.make_eq_ok.mp made
      obtain ⟨inner, approached, rfl⟩ := returns_fit.mp fitted
      have asked : (⟨i, adjusted, goals, goalValues.get i⟩ : Aim α).ray = i := rfl
      have agrees := agrees_approach ((agrees_problem governed ruled same asked).host
        (m := goals.length) (steps ⟨i, adjusted, goals, goalValues.get i⟩ defaultStep))
        (fun _ _ => Alike.wentBad) config maxIterations (.initial config)
      let begins : Course α τ S R := Course.initial ⟨i, adjusted, goals, goalValues.get i⟩
        (World.ask (tracer.runOneRay i) start).state
      let others : Course α υ S Q := Course.initial ⟨j, adjusted, goals, otherValues.get j⟩
        (World.ask (other.runOneRay j) begun).state
      have alike : Alike i j begins others := ⟨surfaces, row, congrArg (List.map _) values, rfl⟩
      let ready : Measured α (Course α υ S Q) goals.length adjusted.length := Problem.initial others
      have related : Measured.Related (Alike i j) (Problem.initial begins) ready := ⟨rfl, alike⟩
      obtain ⟨final, again, related⟩ := agrees.of_returns related approached
      rw [values] at again
      exact ⟨_, .steered (traces ▸ answered) (Aim.make_eq_ok.mpr
        ⟨adjustables, aimed, values ▸ one, rfl⟩) (returns_fit.mpr ⟨final, again, rfl⟩),
        related.2.row⟩

end Turns

end OpticTune.Steer
