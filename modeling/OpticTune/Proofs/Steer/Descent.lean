import OpticTune.Proofs.Solver.Descent
import OpticTune.Proofs.Steer.Independent
import OpticTune.Proofs.Steer.Landscape
import OpticTune.Proofs.Steer.Remembered

namespace OpticTune.Steer

open Act (Returns)
open Optics
open Solver (Config Landscape Measured Problem)

/-! Steering a ray takes it nowhere worse, in exact arithmetic.

Every iteration ends at a place where the ray traces and misses its goals by no
more than before, whatever failed on the way; so does any number of them. -/

variable {τ : Type} {S R : ℕ}

theorem exists_approach {m n : ℕ} {problem : Problem ℚ (Course ℚ τ S R)}
    {landscape : Landscape ℚ m n} {stands : (Fin n → ℚ) → Course ℚ τ S R → Prop}
    {config : Config ℚ} {place : Fin n → ℚ} {start : ℚ}
    (follows : problem.Follows landscape stands)
    (nonneg : ∀ place sos, landscape.sos place = some sos → 0 ≤ sos) (steps : Vector ℚ n)
    (accepted : config.Accepted m n) (state : Solver.State ℚ) (positive : 0 < state.damping)
    (before : Measured ℚ (Course ℚ τ S R) m n) (standing : stands place before.problem)
    (started : landscape.sos place = some start) (iterations : ℕ) :
    ∃ reached after,
      Returns (approach (problem.host steps) config iterations state) before reached after ∧
      ∃ final sos, stands final after.problem ∧ landscape.sos final = some sos ∧ sos ≤ start := by
  induction iterations generalizing state before place start with
  | zero =>
      exact ⟨some state, before, returns_approach_zero.mpr ⟨rfl, rfl⟩, place, start, standing,
        started, le_rfl⟩
  | succ iterations ih =>
      obtain ⟨ending, middle, iterated, standing, search⟩ :=
        Solver.iterate_spec follows nonneg steps accepted positive standing
      obtain ⟨sos, evaluated, -, lower⟩ := search.descends (nonneg _ _ started) started
      have below : sos ≤ start := by
        rcases lower with ⟨-, drop⟩ | ⟨-, below⟩
        · have := nonneg _ _ started
          nlinarith [accepted.tolerance]
        · exact below
      refine exists_approach_succ iterated ⟨ending.params, sos, standing, evaluated, below⟩ ?_
      obtain ⟨reached, after, returned, final, last, standing, found, lowest⟩ :=
        ih ending.state (search.damping_pos accepted positive) middle standing evaluated
      exact ⟨reached, after, returned, final, last, standing, found, lowest.trans below⟩

/-- The sum of the squares by which the final outputs of a ray miss its goals. -/
def misfit (goals : List TraceAttribute) (values : List ℚ) (S : ℕ)
    (outputs : ℤ → TraceAttribute → ℚ) : ℚ :=
  ((goals.zip values).map fun (goal, value) => (outputs ((S : ℤ) - 1) goal - value) ^ 2).sum

theorem misfit_nonneg (goals : List TraceAttribute) (values : List ℚ) (S : ℕ)
    (outputs : ℤ → TraceAttribute → ℚ) : 0 ≤ misfit goals values S outputs := by
  refine List.sum_nonneg fun square member => ?_
  obtain ⟨goal, -, rfl⟩ := List.mem_map.mp member
  exact sq_nonneg _

theorem sumOfSquares_eq (values : List ℚ) :
    Scalar.sumOfSquares values = (values.map (· ^ 2)).sum := by
  have grows (values : List ℚ) (total : ℚ) :
      values.foldl (fun total x => total + x * x) total = total + (values.map (· ^ 2)).sum := by
    induction values generalizing total with
    | nil => simp
    | cons x rest ih => rw [List.foldl_cons, ih, List.map_cons, List.sum_cons, sq, add_assoc]
  exact (grows values 0).trans (zero_add _)

theorem sumOfSquares_misses (aim : Aim ℚ) (outputs : ℤ → TraceAttribute → ℚ) :
    Scalar.sumOfSquares (aim.misses S outputs) = misfit aim.goals aim.values S outputs := by
  rw [sumOfSquares_eq, Aim.misses, misfit, List.map_zipWith, List.zip, List.zipWith_map_left,
    List.map_zipWith]

theorem sos_around_eq_some {law : Law ℚ S} {aim : Aim ℚ}
    {surfaces : Table ℚ S Surface.columnCount} {row : Vector ℚ RayAttribute.columnCount}
    {place : Fin aim.adjusted.length → ℚ} {sos : ℚ} :
    (law.around aim surfaces row).sos place = some sos ↔
      ∃ outputs, law surfaces (moveRow aim.adjusted (List.ofFn place) row) = some outputs ∧
        misfit aim.goals aim.values S outputs = sos := by
  simp only [Law.around, Law.missesAt, Option.map_map, Option.map_eq_some_iff,
    Function.comp_apply, sumOfSquares_misses]

section Turn

variable {tracer : Tracer ℚ τ S R} {law : Fin R → Law ℚ S} {ray : Fin R} {pass : Pass ℚ R}
  {start : World ℚ τ S R} {outputs : ℤ → TraceAttribute → ℚ}

/-- What a pass that was set up in exact arithmetic offers to a ray. -/
structure Pass.Offers (pass : Pass ℚ R) (ray : Fin R) : Prop where
  adjusted : 1 ≤ pass.adjusted.length ∧ pass.adjusted.length ≤ mostAdjustables
  goals : 1 ≤ pass.goals.length ∧ pass.goals.length ≤ mostGoals
  values : (pass.goalValues.get ray).length = pass.goals.length
  config : pass.config.Accepted pass.goals.length pass.adjusted.length

theorem exists_turn_of_seen (governed : Governed tracer law) (offers : pass.Offers ray)
    (seen : (law ray).seen ray start.system = some outputs) :
    ∃ adjusted finish, Turn pass tracer ray start (some adjusted) finish ∧
      ∃ final, (law ray).seen ray finish.system = some final ∧
        misfit pass.goals (pass.goalValues.get ray) S final ≤
          misfit pass.goals (pass.goalValues.get ray) S outputs := by
  let aim : Aim ℚ := ⟨ray, pass.adjusted, pass.goals, pass.goalValues.get ray⟩
  let landscape := (law ray).around aim start.system.surfaces (start.system.rays.row ray)
  have nonneg (place : Fin aim.adjusted.length → ℚ) (sos : ℚ)
      (evaluated : landscape.sos place = some sos) : 0 ≤ sos := by
    obtain ⟨found, -, rfl⟩ := sos_around_eq_some.mp evaluated
    exact misfit_nonneg ..
  have traced : (tracer.runOneRay ray start.system start.bench).1 = true :=
    (governed.run ..).trans (congrArg Option.isSome seen)
  let begins := (World.ask (tracer.runOneRay ray) start).state
  have started : landscape.sos 0 = some (misfit aim.goals aim.values S outputs) := by
    refine sos_around_eq_some.mpr ⟨outputs, ?_, rfl⟩
    rw [moveRow_zero]
    exact seen
  obtain ⟨reached, after, approached, place, sos, ⟨surfaces, row⟩, evaluated, below⟩ :=
    exists_approach
      (follows_problem governed rfl offers.values start.system.surfaces (start.system.rays.row ray))
      nonneg (steps aim defaultStep) offers.config (.initial pass.config)
      offers.config.initialDamping (Problem.initial (Course.initial aim begins))
      ⟨rfl, (moveRow_zero _).symm⟩ started pass.maxIterations
  have made : Aim.make ray pass.adjusted pass.goals (pass.goalValues.get ray) = .ok aim :=
    Aim.make_eq_ok.mpr ⟨offers.adjusted, offers.goals, offers.values, rfl⟩
  refine ⟨_, _, .steered traced made (returns_fit.mpr ⟨after, approached, rfl⟩), ?_⟩
  obtain ⟨final, found, rfl⟩ := sos_around_eq_some.mp evaluated
  exact ⟨final, by rw [Law.seen, surfaces, row]; exact found, below⟩

/-- A turn is counted as failed if a trace of the fit failed or an iteration ended
badly, and only then. -/
theorem Turn.exists_solve {verdict : Option Bool} {finish : World ℚ τ S R}
    (turn : Turn pass tracer ray start verdict finish)
    (traced : (tracer.runOneRay ray start.system start.bench).1 = true) :
    ∃ aim reached answers traces,
      Aim.make ray pass.adjusted pass.goals (pass.goalValues.get ray) = .ok aim ∧
      Solve pass tracer aim (World.ask (tracer.runOneRay ray) start).state reached finish answers
        traces ∧
      verdict = some reached.isSome ∧
      (verdict = some false ↔ false ∈ traces ∨ ∃ answer ∈ answers, answer.2 = .bad) := by
  cases turn with
  | passedOver answered => exact nomatch answered.symm.trans traced
  | @steered aim reached finish _ made fitted =>
      obtain ⟨answers, traces, solve, failed⟩ := Steer.exists_solve fitted
      refine ⟨aim, reached, answers, traces, made, solve, rfl, ?_⟩
      rw [← failed]
      cases reached <;> simp

theorem Turn.no_worse {verdict : Option Bool} {finish : World ℚ τ S R}
    (turn : Turn pass tracer ray start verdict finish) (governed : Governed tracer law)
    (offers : pass.Offers ray)
    (traced : (tracer.runOneRay ray start.system start.bench).1 = true) :
    ∃ outputs final, (law ray).seen ray start.system = some outputs ∧
      (law ray).seen ray finish.system = some final ∧
      misfit pass.goals (pass.goalValues.get ray) S final ≤
        misfit pass.goals (pass.goalValues.get ray) S outputs := by
  obtain ⟨outputs, seen⟩ : ∃ outputs, (law ray).seen ray start.system = some outputs :=
    Option.isSome_iff_exists.mp ((governed.run ..).symm.trans traced)
  obtain ⟨_, _, again, final, found, below⟩ := exists_turn_of_seen governed offers seen
  obtain ⟨-, rfl⟩ := turn.unique again
  exact ⟨outputs, final, seen, found, below⟩

end Turn

section Pass

variable {tracer : Tracer ℚ τ S R} {law : Fin R → Law ℚ S} {pass : Pass ℚ R}
  {adjusted : List RayAttribute} {goals : List TraceAttribute} {goalValues : Vector (List ℚ) R}
  {maxIterations : ℤ} {before planned : World ℚ τ S R}

theorem offers_of_returns_plan
    (rows : ∀ ray, (goalValues.get ray).length = goals.length)
    (made : Returns (plan tracer adjusted goals goalValues.toList maxIterations) before pass planned)
    (ray : Fin R) : pass.Offers ray := by
  obtain ⟨adjustables, aimed, count, config, usual, -, rfl, -⟩ := returns_plan.mp made
  refine ⟨adjustables, aimed, ?_, Config.accepted_of_make usual⟩
  rw [get_exactVector count]
  exact rows ray

/-- Steering returns and never makes a ray worse or loses it: one that traced when
its turn came still does where it is left, and misses its goals by no more. It is
counted as failed if a trace of its fit failed or an iteration ended badly, and
only then. -/
theorem steers_no_worse (governed : Governed tracer law)
    (rows : ∀ ray, (goalValues.get ray).length = goals.length)
    (made : Returns (plan tracer adjusted goals goalValues.toList maxIterations) before pass planned)
    (builder : Option (ResidualBuilder ℚ τ S R)) :
    (∃ verdict summary after, Steers tracer builder adjusted goals goalValues.toList maxIterations
      before verdict summary after) ∧
    ∀ verdict summary after, Steers tracer builder adjusted goals goalValues.toList maxIterations
        before verdict summary after →
      summary.adjustedCount = (Finset.univ.filter fun ray => verdict ray = some true).card ∧
      summary.failedCount = (Finset.univ.filter fun ray => verdict ray = some false).card ∧
      ∀ ray start, Comes pass tracer ray planned start →
        (tracer.runOneRay ray start.system start.bench).1 = true →
        (∃ outputs final, (law ray).seen ray start.system = some outputs ∧
          (law ray).seen ray after.system = some final ∧
          misfit goals (goalValues.get ray) S final ≤ misfit goals (goalValues.get ray) S outputs) ∧
        ∃ aim reached finish answers traces,
          Aim.make ray adjusted goals (goalValues.get ray) = .ok aim ∧
          Solve pass tracer aim (World.ask (tracer.runOneRay ray) start).state reached finish answers
            traces ∧
          verdict ray = some reached.isSome ∧
          (verdict ray = some false ↔ false ∈ traces ∨ ∃ answer ∈ answers, answer.2 = .bad) := by
  have offers := offers_of_returns_plan rows made
  constructor
  · refine exists_steers made (fun ray start _ _ => ?_) builder
    cases seen : (law ray).seen ray start.system with
    | none => exact ⟨none, turn_of_not_seen governed seen⟩
    | some outputs =>
        obtain ⟨adjusted, finish, turn, -⟩ := exists_turn_of_seen governed (offers ray) seen
        exact ⟨some adjusted, finish, turn⟩
  · intro verdict summary after steers
    obtain ⟨_, _, middle, rms, again, each, -, afterIs, rfl⟩ := steers.visited
    obtain ⟨rfl, rfl⟩ := made.unique again
    refine ⟨rfl, rfl, fun ray start comes traced => ?_⟩
    obtain ⟨first, finish, visited⟩ := each ray
    cases comes.unique visited.comes
    obtain ⟨outputs, final, seen, found, below⟩ :=
      visited.turn.no_worse governed (offers ray) traced
    obtain ⟨aim, reached, answers, traces, aimed, solve, counted, failed⟩ :=
      visited.turn.exists_solve traced
    obtain ⟨-, -, count, config, usual, -, rfl, -⟩ := returns_plan.mp made
    simp only [get_exactVector count] at below aimed
    refine ⟨⟨outputs, final, seen, ?_, below⟩, aim, reached, finish, answers, traces, aimed, solve,
      counted, failed⟩
    rw [Law.seen, afterIs, visited.finalSurfaces, visited.finalRow]
    exact found

end Pass

/-- The X of the rays on both sides is steered, on the far side onto two. -/
def bothPass : Pass ℚ 2 where
  adjusted := [.x]
  goals := [.xl]
  goalValues := #v[[2], [0]]
  config := farPass.config
  maxIterations := 1
  availableCount := 1

theorem steers_no_worse_bothSides :
    Returns (plan (lawful fun _ => farSide) [.x] [.xl] [[2], [0]] 1) ⟨bothSides, ()⟩ bothPass
      ⟨bothSides, ()⟩ ∧
    ∃ verdict summary after,
      Steers (lawful fun _ => farSide) none [.x] [.xl] [[2], [0]] 1 ⟨bothSides, ()⟩ verdict summary
        after ∧
      ∃ outputs final, farSide.seen 0 bothSides = some outputs ∧
        farSide.seen 0 after.system = some final ∧
        misfit [.xl] [2] 1 final ≤ misfit [.xl] [2] 1 outputs := by
  have made : Returns (plan (lawful fun _ => farSide) [.x] [.xl] [[2], [0]] 1) ⟨bothSides, ()⟩
      bothPass ⟨bothSides, ()⟩ :=
    returns_plan.mpr ⟨by decide, by decide, rfl, farPass.config, by with_unfolding_all rfl,
      by decide +kernel, rfl, rfl⟩
  let goalValues : Vector (List ℚ) 2 := #v[[2], [0]]
  have rows : ∀ ray, (goalValues.get ray).length = [TraceAttribute.xl].length := by decide +kernel
  obtain ⟨⟨verdict, summary, after, steers⟩, holds⟩ :=
    steers_no_worse (governed_lawful fun _ : Fin 2 => farSide) rows made none
  obtain ⟨-, -, fares⟩ := holds verdict summary after steers
  have comes : Comes bothPass (lawful fun _ => farSide) 0 ⟨bothSides, ()⟩ ⟨bothSides, ()⟩ :=
    ⟨Tally.none, Act.returns_pure.mpr ⟨rfl, rfl⟩⟩
  obtain ⟨⟨outputs, final, seen, found, below⟩, -⟩ := fares 0 _ comes (by decide +kernel)
  exact ⟨made, verdict, summary, after, steers, outputs, final, seen, found, below⟩

end OpticTune.Steer
