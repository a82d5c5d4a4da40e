import OpticTune.Proofs.Scalar.Sum
import OpticTune.Proofs.Solver.Underflow
import OpticTune.Proofs.Steer.Law
import OpticTune.Proofs.Steer.Stops

namespace OpticTune.Steer

open Act (Returns Stops)
open Optics
open Solver (Config Fault Host Measured Problem Reached)

/-! Passes of doubles that were set up.

One more than a sum of squares of doubles is never zero, and the damping of a ray
climbs through more iterations than a ray is given. So a pass returns unless it
comes to a ray that traces and has not one goal value for every goal: the setup
counts the rows of the goals, and leaves their lengths to the turns of the rays.
-/

section Doubles

variable {τ : Type} {S R m n : ℕ} {host : Host Float (Measured Float (Course Float τ S R) m n)}
  {config : Config Float} {state : Solver.State Float}
  {holds : Measured Float (Course Float τ S R) m n → Prop} {calls iterations : ℕ}

theorem scale_sumOfSquares (values : List Float) :
    Scalar.isZero (1 + Scalar.sumOfSquares values) = false := by
  have unsigned (total : Float) (start : Double.Unsigned total) :
      Double.Unsigned (values.foldl (fun total x => total + x * x) total) := by
    induction values generalizing total with
    | nil => exact start
    | cons x rest ih => exact ih _ (start.add (Double.unsigned_mul_self x))
  exact Double.not_isZero_one_add (unsigned 0 (Double.unsigned_of_value Double.value_zero))

/-- A ceiling in reach of as many calls as there are iterations ends them all. -/
theorem exists_returns_approach (checked : config.Checked) (kept : host.KeptBy holds)
    (ready : ∀ state, holds state → host.Ready config state)
    (before : Measured Float (Course Float τ S R) m n) (held : holds before)
    (reached : Reached config calls state)
    (climbs : config.Climbs (config.shrunk (calls + iterations))) :
    ∃ answer after, Returns (approach host config iterations state) before answer after ∧
      holds after := by
  induction iterations generalizing calls state before with
  | zero => exact ⟨some state, before, returns_approach_zero.mpr ⟨rfl, rfl⟩, held⟩
  | succ iterations ih =>
      obtain ⟨positive, climbing⟩ :=
        reached.climbs checked (checked.climbs_shrunk (Nat.le_add_right ..) climbs)
      obtain ⟨answer, middle, returned⟩ :=
        checked.exists_returns_iterate (Double.le_of_lt positive) climbing (ready before held)
      have held := (kept.iterate config state).of_returns returned held
      refine exists_approach_succ returned held ?_
      rw [← Nat.succ_add_eq_add_succ] at climbs
      exact ih middle held (.call host reached returned) climbs

end Doubles

section Setup

variable {τ : Type} {S R : ℕ} {tracer : Tracer Float τ S R} {pass : Pass Float R}
  {aim : Aim Float} {ray : Fin R} {before planned : World Float τ S R} {refusal : AimError}
  {fault : Fault}

/-- A pass of doubles as its setup leaves it. -/
structure Pass.Planned (pass : Pass Float R) : Prop where
  adjusted : 1 ≤ pass.adjusted.length ∧ pass.adjusted.length ≤ mostAdjustables
  goals : 1 ≤ pass.goals.length ∧ pass.goals.length ≤ mostGoals
  config : Config.usual pass.adjusted.length pass.goals.length tolerance .steering = .ok pass.config

/-- Some ray that is steered has not one value for every goal. -/
def Pass.Misfits (pass : Pass Float R) (tracer : Tracer Float τ S R) (planned : World Float τ S R) :
    Prop :=
  ∃ ray start, Comes pass tracer ray planned start ∧
    (tracer.runOneRay ray start.system start.bench).1 = true ∧
    (pass.goalValues.get ray).length ≠ pass.goals.length

namespace Pass.Planned

variable (setUp : pass.Planned)

include setUp

theorem fits (made : Aim.make ray pass.adjusted pass.goals (pass.goalValues.get ray) = .ok aim) :
    aim.values.length = aim.goals.length ∧ pass.config.pointCount = aim.goals.length ∧
      pass.config.paramCount = aim.adjusted.length := by
  obtain ⟨-, -, fitting, rfl⟩ := Aim.make_eq_ok.mp made
  obtain ⟨-, -, -, -, -, -, config⟩ := Config.make_eq_ok.mp setUp.config
  rw [config]
  exact ⟨fitting, Int.toNat_natCast _, Int.toNat_natCast _⟩

/-- The damping of a fit climbs after any 320 steps that are kept. -/
theorem climbs (few : pass.maxIterations ≤ 320) :
    pass.config.Climbs (pass.config.shrunk pass.maxIterations) := by
  refine (Config.checked_of_make setUp.config).climbs_shrunk few ?_
  obtain ⟨-, -, -, -, -, -, made⟩ := Config.make_eq_ok.mp setUp.config
  rw [made]
  change Solver.steeringConfig.Climbs (Solver.steeringConfig.shrunk 320)
  decide +kernel

theorem exists_returns_fit (few : pass.maxIterations ≤ 320)
    (made : Aim.make ray pass.adjusted pass.goals (pass.goalValues.get ray) = .ok aim) :
    ∃ reached after, Returns (pass.fit tracer aim) before reached after := by
  obtain ⟨fitting, points, params⟩ := setUp.fits made
  have sound := sound_problem tracer fitting scale_sumOfSquares
  have climbs : pass.config.Climbs (pass.config.shrunk (0 + pass.maxIterations)) := by
    rw [Nat.zero_add]
    exact setUp.climbs few
  obtain ⟨reached, after, approached, -⟩ := exists_returns_approach
    (Config.checked_of_make setUp.config) (sound.kept.host _)
    (fun _ held => sound.ready points params held) (Problem.initial (Course.initial aim before))
    (length_initial fitting before) .initial climbs
  exact ⟨reached, _, returns_fit.mpr ⟨after, approached, rfl⟩⟩

theorem eq_endless_of_stops_fit (stopped : Stops (pass.fit tracer aim) before fault)
    (made : Aim.make ray pass.adjusted pass.goals (pass.goalValues.get ray) = .ok aim) :
    fault = .endless := by
  obtain ⟨fitting, points, params⟩ := setUp.fits made
  have sound := sound_problem tracer fitting scale_sumOfSquares
  exact eq_endless_of_stops_approach (sound.kept.host _)
    (fun _ held => sound.ready points params held)
    (length_initial fitting before) (Act.stops_within.mp stopped)

/-- A turn is stopped for the number of its goals, or for a damping that was shrunk
too often. -/
theorem of_halts {start : World Float τ S R} {error : PassFault}
    (halts : Halts pass tracer ray start error) :
    (error = .aim .goalValues ∧ (pass.goalValues.get ray).length ≠ pass.goals.length) ∨
      (error = .solver .endless ∧ 320 < pass.maxIterations) := by
  cases halts with
  | refused traced refused =>
      obtain ⟨rfl, misfits⟩ := (Aim.make_eq_error setUp.adjusted setUp.goals).mp refused
      exact .inl ⟨rfl, misfits⟩
  | unfitted traced made stopped =>
      cases setUp.eq_endless_of_stops_fit stopped made
      refine .inr ⟨rfl, not_le.mp fun few => ?_⟩
      obtain ⟨reached, after, returned⟩ := setUp.exists_returns_fit few made
      exact stopped.not_returns returned

end Pass.Planned

theorem planned_of_returns_plan {adjusted : List RayAttribute} {goals : List TraceAttribute}
    {goalValues : List (List Float)} {maxIterations : ℤ}
    (made : Returns (plan tracer adjusted goals goalValues maxIterations) before pass planned) :
    planned.system = before.system ∧ pass.Planned ∧ pass.goals = goals ∧
      pass.goalValues.toList = goalValues ∧ pass.maxIterations = maxIterations.toNat := by
  obtain ⟨adjustables, aimed, rows, config, usual, -, rfl, rfl⟩ := returns_plan.mp made
  exact ⟨rfl, ⟨adjustables, aimed, usual⟩, rfl, rfl, rfl⟩

/-- What stops a pass of doubles that was set up, whatever the tracer and the
builder answer. It is stopped by the goals of a ray that is steered, which the
setup does not look into, and by nothing else as long as no ray has more than 320
iterations. -/
theorem run_returns_iff_goals_fit {adjusted : List RayAttribute} {goals : List TraceAttribute}
    {goalValues : List (List Float)} {maxIterations : ℤ}
    (made : Returns (plan tracer adjusted goals goalValues maxIterations) before pass planned)
    (builder : Option (ResidualBuilder Float τ S R)) :
    let run := pass.run tracer (ExceptT.lift (Pass.finalRms tracer builder))
    planned.system = before.system ∧
    (Stops run planned (.aim .goalValues) ↔ pass.Misfits tracer planned) ∧
    (∀ error, Stops run planned error →
      error = .aim .goalValues ∨ (error = .solver .endless ∧ 320 < maxIterations)) ∧
    (maxIterations ≤ 320 →
      ((∃ summary after, Returns run planned summary after) ↔ ¬ pass.Misfits tracer planned)) ∧
    ((∀ row ∈ goalValues, row.length = goals.length) → ¬ pass.Misfits tracer planned) := by
  intro run
  obtain ⟨unmoved, setUp, sameGoals, sameValues, iterations⟩ := planned_of_returns_plan made
  have stops {error : PassFault} : Stops run planned error ↔
      ∃ ray start, Comes pass tracer ray planned start ∧ Halts pass tracer ray start error :=
    stops_run fun _ _ => Act.stops_lift
  have misfits : Stops run planned (.aim .goalValues) ↔ pass.Misfits tracer planned := by
    rw [stops]
    refine exists_congr fun ray => exists_congr fun start => and_congr_right fun _ => ?_
    constructor
    · intro halts
      rcases setUp.of_halts halts with ⟨-, misfit⟩ | ⟨endless, -⟩
      · exact ⟨halts.traced, misfit⟩
      · exact nomatch endless
    · rintro ⟨traced, misfit⟩
      exact .refused traced ((Aim.make_eq_error setUp.adjusted setUp.goals).mpr ⟨rfl, misfit⟩)
  have only (error : PassFault) (stopped : Stops run planned error) :
      error = .aim .goalValues ∨ (error = .solver .endless ∧ 320 < maxIterations) := by
    obtain ⟨ray, start, -, halts⟩ := stops.mp stopped
    exact (setUp.of_halts halts).imp (·.1) fun ⟨endless, many⟩ => ⟨endless, by omega⟩
  refine ⟨unmoved, misfits, only, fun few => ?_, fun rows => ?_⟩
  · rw [← misfits]
    constructor
    · rintro ⟨summary, after, returned⟩ stopped
      exact stopped.not_returns returned
    · intro fits
      refine (Act.returns_or_stops run planned).resolve_right ?_
      rintro ⟨error, stopped⟩
      rcases only error stopped with rfl | ⟨-, many⟩
      · exact fits stopped
      · omega
  · rintro ⟨ray, -, -, -, misfit⟩
    refine misfit (sameGoals ▸ rows _ ?_)
    rw [← sameValues, Vector.mem_toList_iff]
    exact Vector.getElem_mem ray.isLt

end Setup

/-- Two rays with their X at one and at two. -/
def apart : OpticalSystem Float 1 2 where
  surfaces := Table.zeros
  rays := Table.ofFn fun ray column =>
    if column = RayAttribute.x.column then if ray.val = 0 then 1.0 else 2.0 else 0.0
  size := 1

/-- Every ray keeps its X all the way. -/
def straight : Tracer Float Unit 1 2 :=
  lawful fun _ _ row => some fun _ _ => row.get RayAttribute.x.column

/-- The pass that steers the X of both rays onto goals of their own. -/
def apartPass (goalValues : Vector (List Float) 2) : Pass Float 2 where
  adjusted := [.x]
  goals := [.xl]
  goalValues := goalValues
  config := Solver.steeringConfig
  maxIterations := 10
  availableCount := 2

theorem returns_plan_apart (goalValues : Vector (List Float) 2) :
    Returns (plan straight [.x] [.xl] goalValues.toList 10) ⟨apart, ()⟩ (apartPass goalValues)
      ⟨apart, ()⟩ :=
  returns_plan.mpr ⟨by decide, by decide, goalValues.length_toList, Solver.steeringConfig,
    Solver.usual_steering, by decide +kernel, rfl, rfl⟩

theorem run_returns_iff_goals_fit_apart :
    Returns (plan straight [.x] [.xl] [[0.5], [0.0]] 10) ⟨apart, ()⟩ (apartPass #v[[0.5], [0.0]])
      ⟨apart, ()⟩ ∧
    ∃ summary after, Returns ((apartPass #v[[0.5], [0.0]]).run straight
      (ExceptT.lift (Pass.finalRms straight none))) ⟨apart, ()⟩ summary after := by
  let goalValues : Vector (List Float) 2 := #v[[0.5], [0.0]]
  have made := returns_plan_apart goalValues
  obtain ⟨-, -, -, returns, fits⟩ := run_returns_iff_goals_fit made none
  exact ⟨made, (returns (by decide)).mpr (fits (by simp [goalValues]))⟩

/-- The second ray has one goal value too many. The setup lets the table pass, and
the pass is stopped when the first ray has left its start. -/
theorem misfit_goals_stop_late :
    Returns (plan straight [.x] [.xl] [[0.5], [0.0, 1.0]] 10) ⟨apart, ()⟩
      (apartPass #v[[0.5], [0.0, 1.0]]) ⟨apart, ()⟩ ∧
    Aim.make 1 [.x] [.xl] [0.0, 1.0] = .error .goalValues ∧
    Stops ((apartPass #v[[0.5], [0.0, 1.0]]).run straight
      (ExceptT.lift (Pass.finalRms straight none))) ⟨apart, ()⟩ (.aim .goalValues) ∧
    ∃ start, Comes (apartPass #v[[0.5], [0.0, 1.0]]) straight 1 ⟨apart, ()⟩ start ∧
      (start.system.rays.row 0)[0] < (apart.rays.row 0)[0] := by
  let goalValues : Vector (List Float) 2 := #v[[0.5], [0.0, 1.0]]
  let first := ((List.finRange 2).take 1).foldlM ((apartPass goalValues).visit straight) Tally.none
  have completes : (first.run ⟨apart, ()⟩).value.toBool = true := by decide +kernel
  obtain ⟨tally, start, visited⟩ := Act.exists_returns completes
  have moved : ((first.run ⟨apart, ()⟩).state.system.rays.row 0)[0] < (apart.rays.row 0)[0] := by
    decide +kernel
  have comes : Comes (apartPass goalValues) straight 1 ⟨apart, ()⟩ start := ⟨tally, visited⟩
  refine ⟨returns_plan_apart goalValues, rfl, ?_, start, comes, visited.2 ▸ moved⟩
  exact (stops_run fun _ _ => Act.stops_lift).mpr ⟨1, start, comes, .refused rfl rfl⟩

end OpticTune.Steer
