import OpticTune.Proofs.Solver.Agrees
import OpticTune.Proofs.Solver.FiniteDifference
import OpticTune.Proofs.Steer.Problem

namespace OpticTune.Steer

open Optics

/-! Tracers that follow a law.

What becomes of a ray is a function of the surfaces and of the ray's own row,
whatever else was traced before and whatever the tracer remembers. Nothing is
asked of a ray that did not trace, nor of one that was not the last to trace.
-/

variable {α τ : Type} {S R : ℕ}

/-- Nothing, or what the ray is found to be at every surface. -/
def Law (α : Type) (S : ℕ) : Type :=
  Table α S Surface.columnCount → Vector α RayAttribute.columnCount →
    Option (ℤ → TraceAttribute → α)

/-- The benches on which a ray has traced, and nothing was asked since but what it
was found to be. -/
inductive Traced (tracer : Tracer α τ S R) (ray : ℤ) (system : OpticalSystem α S R) : τ → Prop where
  | run {bench : τ} : (tracer.runOneRay ray system bench).1 = true →
      Traced tracer ray system (tracer.runOneRay ray system bench).2
  | output {bench : τ} (surface : ℤ) (output : TraceAttribute) : Traced tracer ray system bench →
      Traced tracer ray system (tracer.rayOutput ray surface output system bench).2

/-- What the law of a ray says of it in a system. -/
def Law.seen (law : Law α S) (ray : Fin R) (system : OpticalSystem α S R) :
    Option (ℤ → TraceAttribute → α) :=
  law system.surfaces (system.rays.row ray)

/-- Every ray has a law, which may be the same for all of them. -/
structure Governed (tracer : Tracer α τ S R) (law : Fin R → Law α S) : Prop where
  run : ∀ (ray : Fin R) (system : OpticalSystem α S R) (bench : τ),
    (tracer.runOneRay ray system bench).1 = ((law ray).seen ray system).isSome
  output : ∀ (ray : Fin R) (system : OpticalSystem α S R) (bench : τ)
    (outputs : ℤ → TraceAttribute → α), (law ray).seen ray system = some outputs →
    Traced tracer ray system bench → ∀ (surface : ℤ) (output : TraceAttribute),
      (tracer.rayOutput ray surface output system bench).1 = outputs surface output

/-- A full build counts the rays that trace. -/
def Counts (tracer : Tracer α τ S R) (law : Fin R → Law α S) : Prop :=
  ∀ (system : OpticalSystem α S R) (bench : τ),
    (tracer.buildRays true system bench).1 =
      (List.finRange R).countP fun ray => ((law ray).seen ray system).isSome

/-- A tracer that does nothing but what the laws say, and remembers nothing. -/
def lawful [Zero α] (law : Fin R → Law α S) : Tracer α Unit S R where
  buildRays _ := fun system bench =>
    ((List.finRange R).countP fun ray => ((law ray).seen ray system).isSome, bench)
  isGood place := fun system bench => ((seenAt place system).isSome, bench)
  runOneRay place := fun system bench => ((seenAt place system).isSome, bench)
  rayOutput place surface output := fun system bench =>
    (((seenAt place system).map fun outputs => outputs surface output).getD 0, bench)
  updateOrientations := fun _ bench => ((), bench)
where
  seenAt (place : ℤ) (system : OpticalSystem α S R) : Option (ℤ → TraceAttribute → α) :=
    (insidePlace R place).bind fun ray => (law ray).seen ray system

theorem governed_lawful [Zero α] (law : Fin R → Law α S) : Governed (lawful law) law where
  run ray system bench := by
    simp only [lawful, lawful.seenAt, Solver.insidePlace_natCast]
    rfl
  output ray system bench outputs seen _ surface output := by
    simp only [lawful, lawful.seenAt, Solver.insidePlace_natCast, Option.bind_some, seen]
    rfl

theorem counts_lawful [Zero α] (law : Fin R → Law α S) : Counts (lawful law) law :=
  fun _ _ => rfl

variable {tracer : Tracer α τ S R} {law : Fin R → Law α S} {ray : Fin R}

theorem outputs_of_traced (governed : Governed tracer law) (goals : List TraceAttribute)
    (course : Course α τ S R) {outputs : ℤ → TraceAttribute → α}
    (seen : (law ray).seen ray course.world.system = some outputs)
    (traced : Traced tracer ray course.world.system course.world.bench) (surface : ℤ) :
    let asked := (goals.mapM fun goal => inWorld (World.ask (tracer.rayOutput ray surface goal)) :
      Act α (Course α τ S R) (List α)) course
    asked.value = goals.map (outputs surface) ∧
      ∃ bench, asked.state = { course with world := { course.world with bench } } := by
  induction goals generalizing course with
  | nil => exact ⟨rfl, course.world.bench, rfl⟩
  | cons goal rest ih =>
      have answer := governed.output ray course.world.system course.world.bench outputs seen traced
        surface goal
      obtain ⟨values, bench, after⟩ := ih
        { course with world := { course.world with
          bench := (tracer.rayOutput ray surface goal course.world.system course.world.bench).2 } }
        seen (traced.output surface goal)
      simp only [List.mapM_cons, Act.value_bind, Act.state_bind, Act.pure_apply, List.map_cons]
      refine ⟨?_, bench, after⟩
      exact congrArg₂ List.cons answer values

variable [Scalar α] {aim : Aim α}

/-- The final outputs of a ray less their goals. -/
def Aim.misses (aim : Aim α) (S : ℕ) (outputs : ℤ → TraceAttribute → α) : List α :=
  (aim.goals.map (outputs ((S : ℤ) - 1))).zipWith (fun output value => output - value) aim.values

/-- An evaluation misses the goals by what the law says, or fails if the ray does
not trace, which is remembered. -/
theorem evaluate_of_law (governed : Governed tracer law) (aimed : aim.ray = ray)
    (course : Course α τ S R) :
    let misses := ((law ray).seen ray course.world.system).map (aim.misses S)
    (evaluate tracer aim course).value = misses.map Scalar.sumOfSquares ∧
      ∃ bench, (evaluate tracer aim course).state =
        { world := { course.world with bench }
          residuals := misses.getD course.residuals
          wentBad := course.wentBad || misses.isNone } := by
  obtain ⟨index, adjusted, goals, values⟩ := aim
  obtain rfl : index = ray := aimed
  have traces : (inWorld (World.ask (tracer.runOneRay ray)) course).value =
      ((law ray).seen ray course.world.system).isSome :=
    governed.run ray course.world.system course.world.bench
  unfold evaluate
  rw [Act.value_bind, Act.state_bind, traces]
  cases seen : (law ray).seen ray course.world.system with
  | none =>
      simp only [Option.isSome_none, Bool.false_eq_true, ↓reduceIte, Option.map_none,
        Option.isNone_none, Bool.or_true]
      exact ⟨rfl, _, rfl⟩
  | some outputs =>
      let asked := (inWorld (World.ask (tracer.runOneRay ray)) course).state
      have traced : Traced tracer ray asked.world.system asked.world.bench :=
        .run (traces.trans (congrArg Option.isSome seen))
      obtain ⟨found, bench, after⟩ :=
        outputs_of_traced governed goals asked seen traced ((S : ℤ) - 1)
      simp only [Option.isSome_some, ↓reduceIte, Option.map_some, Option.isNone_some,
        Bool.or_false, Act.value_bind, Act.state_bind]
      rw [found, after]
      exact ⟨rfl, bench, rfl⟩

end OpticTune.Steer
