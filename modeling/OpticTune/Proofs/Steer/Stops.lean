import OpticTune.Proofs.Solver.Sound
import OpticTune.Proofs.Steer.Turn

namespace OpticTune.Steer

open Act (Returns Stops)
open Optics
open Solver (Config Fault Host Measured Problem)

/-! What stops a pass, for any arithmetic.

The fit of a ray asks for as many residuals at every time as it has goals, and an
evaluation gives as many whatever the tracer answers. So no fit is stopped by what
is traced. What is left are the goals of a ray that is steered, which are not
looked at before its turn, and a damping that does not reach its ceiling.
-/

section Problem

variable {α τ : Type} {S R : ℕ} {tracer : Tracer α τ S R}

theorem length_outputs (ray surface : ℤ) (goals : List TraceAttribute) (course : Course α τ S R) :
    ((goals.mapM fun goal => inWorld (World.ask (tracer.rayOutput ray surface goal)) :
      Act α (Course α τ S R) (List α)) course).value.length = goals.length := by
  induction goals generalizing course with
  | nil => rfl
  | cons goal rest ih =>
      simp only [List.mapM_cons, Act.value_bind, Act.pure_apply, List.length_cons]
      exact congrArg Nat.succ (ih _)

variable [Scalar α] {aim : Aim α}

/-- An evaluation gives a residual for every goal, or leaves those there are. -/
theorem evaluate_residuals (tracer : Tracer α τ S R)
    (fitting : aim.values.length = aim.goals.length) (course : Course α τ S R) :
    ((evaluate tracer aim course).value = none ∧
      (evaluate tracer aim course).state.residuals = course.residuals) ∨
    ∃ residuals, residuals.length = aim.goals.length ∧
      (evaluate tracer aim course).value = some (Scalar.sumOfSquares residuals) ∧
      (evaluate tracer aim course).state.residuals = residuals := by
  unfold evaluate
  rw [Act.value_bind, Act.state_bind]
  cases (inWorld (World.ask (tracer.runOneRay aim.ray)) course).value with
  | false => exact .inl ⟨rfl, rfl⟩
  | true =>
      refine .inr ⟨_, ?_, rfl, rfl⟩
      rw [List.length_zipWith, length_outputs, fitting, Nat.min_self]

theorem length_initial (fitting : aim.values.length = aim.goals.length) (world : World α τ S R) :
    (Course.initial aim world).residuals.length = aim.goals.length :=
  (List.length_map _).trans fitting

theorem kept_residuals (tracer : Tracer α τ S R) (fitting : aim.values.length = aim.goals.length) :
    (problem tracer aim).KeptBy fun course => course.residuals.length = aim.goals.length where
  apply _ _ held := held
  evaluate course held := by
    rcases evaluate_residuals tracer fitting course with
      ⟨-, stays⟩ | ⟨residuals, length, -, left⟩
    · exact (congrArg List.length stays).trans held
    · exact (congrArg List.length left).trans length
  residuals _ held := held

theorem sound_problem (tracer : Tracer α τ S R) (fitting : aim.values.length = aim.goals.length)
    (scale : ∀ values : List α, Scalar.isZero (1 + Scalar.sumOfSquares values) = false) :
    (problem tracer aim).Sound aim.goals.length
      fun course => course.residuals.length = aim.goals.length where
  kept := kept_residuals tracer fitting
  scale course held sos evaluated := by
    rcases evaluate_residuals tracer fitting course with
      ⟨failed, -⟩ | ⟨residuals, -, found, -⟩
    · exact nomatch failed.symm.trans evaluated
    · cases Option.some.inj (found.symm.trans evaluated)
      exact scale residuals
  residuals _ held := held

end Problem

section Approach

variable {α τ : Type} {S R m n : ℕ} [Scalar α] {host : Host α (Measured α (Course α τ S R) m n)}
  {config : Config α} {state : Solver.State α} {before : Measured α (Course α τ S R) m n}
  {holds : Measured α (Course α τ S R) m n → Prop} {iterations : ℕ} {fault : Fault}

theorem eq_endless_of_stops_approach (kept : host.KeptBy holds)
    (ready : ∀ state, holds state → host.Ready config state) (held : holds before)
    (stopped : Stops (approach host config iterations state) before fault) : fault = .endless := by
  induction iterations generalizing state before with
  | zero => exact absurd stopped Act.stops_pure
  | succ iterations ih =>
      rw [approach, Act.stops_bind] at stopped
      rcases stopped with stopped | ⟨⟨next, status⟩, middle, returned, stopped⟩
      · exact (ready before held).eq_endless_of_stops stopped
      · have held := (kept.iterate config state).of_returns returned held
        rw [(Act.returns_get.mpr ⟨rfl, rfl⟩ : Returns get middle middle middle).stops_bind] at stopped
        split at stopped
        · exact absurd stopped Act.stops_pure
        · split at stopped
          · exact absurd stopped Act.stops_pure
          · exact ih held stopped

end Approach

section Turns

variable {α τ : Type} {S R : ℕ} [Scalar α] {pass : Pass α R} {tracer : Tracer α τ S R}
  {before : World α τ S R} {error : PassFault}

/-- How a turn is stopped: the goals of a ray that traces are refused, or its fit is
stopped. -/
inductive Halts (pass : Pass α R) (tracer : Tracer α τ S R) (ray : Fin R)
    (before : World α τ S R) : PassFault → Prop where
  | refused {refusal : AimError} :
      (tracer.runOneRay ray before.system before.bench).1 = true →
      Aim.make ray pass.adjusted pass.goals (pass.goalValues.get ray) = .error refusal →
      Halts pass tracer ray before (.aim refusal)
  | unfitted {aim : Aim α} {fault : Fault} :
      (tracer.runOneRay ray before.system before.bench).1 = true →
      Aim.make ray pass.adjusted pass.goals (pass.goalValues.get ray) = .ok aim →
      Stops (pass.fit tracer aim) (World.ask (tracer.runOneRay ray) before).state fault →
      Halts pass tracer ray before (.solver fault)

theorem Halts.traced {ray : Fin R} (halts : Halts pass tracer ray before error) :
    (tracer.runOneRay ray before.system before.bench).1 = true := by
  cases halts with
  | refused traced _ => exact traced
  | unfitted traced _ _ => exact traced

theorem stops_steer {ray : Fin R} :
    Stops (pass.steer tracer ray) before error ↔
      (∃ refusal, Aim.make ray pass.adjusted pass.goals (pass.goalValues.get ray) =
        .error refusal ∧ error = .aim refusal) ∨
      ∃ aim, Aim.make ray pass.adjusted pass.goals (pass.goalValues.get ray) = .ok aim ∧
        ∃ fault, Stops (pass.fit tracer aim) before fault ∧ error = .solver fault := by
  unfold Pass.steer
  cases made : Aim.make ray pass.adjusted pass.goals (pass.goalValues.get ray) with
  | error refusal => simp
  | ok aim =>
      simp only [reduceCtorEq, false_and, exists_false, false_or, Except.ok.injEq,
        exists_eq_left', ← Act.stops_adapt]
      rw [Act.stops_bind, or_iff_left]
      rintro ⟨reached, middle, -, stopped⟩
      cases reached with
      | some state => simp only [Act.stops_note_bind, Act.stops_pure] at stopped
      | none => simp only [Act.stops_note_bind, Act.stops_pure] at stopped

theorem stops_visit {ray : Fin R} {tally : Tally} :
    Stops (pass.visit tracer tally ray) before error ↔ Halts pass tracer ray before error := by
  unfold Pass.visit
  rw [(Act.returns_lift.mpr ⟨rfl, rfl⟩ : Returns _ before _ _).stops_bind, World.value_ask]
  cases traced : (tracer.runOneRay ray before.system before.bench).1 with
  | false =>
      exact iff_of_false Act.stops_pure fun halts => nomatch traced.symm.trans halts.traced
  | true =>
      rw [if_pos rfl, Act.stops_bind, stops_steer]
      constructor
      · rintro ((⟨refusal, refused, rfl⟩ | ⟨aim, made, fault, stopped, rfl⟩) | ⟨_, _, -, counted⟩)
        · exact .refused traced refused
        · exact .unfitted traced made stopped
        · exact absurd counted Act.stops_pure
      · rintro (⟨_, refused⟩ | ⟨_, made, stopped⟩)
        · exact .inl (.inl ⟨_, refused, rfl⟩)
        · exact .inl (.inr ⟨_, made, _, stopped, rfl⟩)

/-- A turn that is stopped is the last. -/
theorem stops_visits {rays : List (Fin R)} {tally : Tally} :
    Stops (rays.foldlM (pass.visit tracer) tally) before error ↔
      ∃ earlier ray later, rays = earlier ++ ray :: later ∧
        ∃ verdicts start, Turns pass tracer earlier before verdicts start ∧
          Halts pass tracer ray start error := by
  induction rays generalizing tally before with
  | nil =>
      refine iff_of_false Act.stops_pure ?_
      rintro ⟨earlier, ray, later, split, -⟩
      simp at split
  | cons first rest ih =>
      rw [List.foldlM_cons, Act.stops_bind, stops_visit]
      constructor
      · rintro (halts | ⟨_, middle, visited, stopped⟩)
        · exact ⟨[], first, rest, rfl, [], before, .nil, halts⟩
        · obtain ⟨verdict, turn, -⟩ := returns_visit.mp visited
          obtain ⟨earlier, ray, later, rfl, verdicts, start, turns, halts⟩ := ih.mp stopped
          exact ⟨first :: earlier, ray, later, rfl, _, start, .cons turn turns, halts⟩
      · rintro ⟨earlier, ray, later, split, verdicts, start, turns, halts⟩
        cases turns with
        | nil =>
            cases split
            exact .inl halts
        | cons turn turns =>
            cases split
            refine .inr ⟨_, _, returns_visit.mpr ⟨_, turn, rfl⟩, ih.mpr ?_⟩
            exact ⟨_, ray, later, rfl, _, start, turns, halts⟩

theorem eq_take_of_finRange {earlier later : List (Fin R)} {ray : Fin R}
    (split : List.finRange R = earlier ++ ray :: later) : earlier = (List.finRange R).take ray := by
  have place : earlier.length = ray := by
    have found : (List.finRange R)[earlier.length]? = some ray := by simp [split]
    obtain ⟨inside, same⟩ := List.getElem?_eq_some_iff.mp found
    rw [List.getElem_finRange] at same
    exact congrArg Fin.val same
  rw [split, ← place, List.take_left]

/-- A pass is stopped in the turn of a ray. -/
theorem stops_run {measure : ExceptT Fault (Act α (World α τ S R)) (Option α)}
    (measures : ∀ world fault, ¬ Stops measure world fault) :
    Stops (pass.run tracer measure) before error ↔
      ∃ ray start, Comes pass tracer ray before start ∧ Halts pass tracer ray start error := by
  unfold Pass.run
  rw [Act.stops_bind, stops_visits, or_iff_left]
  · constructor
    · rintro ⟨earlier, ray, later, split, verdicts, start, turns, halts⟩
      rw [eq_take_of_finRange split] at turns
      exact ⟨ray, start, comes_iff.mpr ⟨verdicts, turns⟩, halts⟩
    · rintro ⟨ray, start, comes, halts⟩
      obtain ⟨verdicts, turns⟩ := comes_iff.mp comes
      exact ⟨_, ray, _, (take_append_finRange ray).symm, verdicts, start, turns, halts⟩
  · rintro ⟨tally, middle, -, stopped⟩
    rw [Act.stops_bind, Act.stops_adapt] at stopped
    rcases stopped with ⟨fault, unmeasured, -⟩ | ⟨rms, after, -, reported⟩
    · exact measures middle fault unmeasured
    · split at reported <;> simp only [Act.stops_note_bind, Act.stops_pure] at reported

end Turns

end OpticTune.Steer
