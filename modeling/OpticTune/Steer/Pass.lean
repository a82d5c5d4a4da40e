import OpticTune.Setup
import OpticTune.Solver.Iteration
import OpticTune.Steer.Problem

namespace OpticTune.Steer

/-! Every ray steered onto its goals, each on its own.

A ray that fails to trace at any point of its fit is abandoned and counted as
failed. No ray's fit is carried on into the next: damping, Jacobian and
residuals start afresh for each.
-/

open Optics
open Solver (Config ConfigError Fault Host Measured Problem)

variable {α τ : Type} {S R : Nat}

/-- What is fixed at setup, the same for every ray but for the goal values. -/
structure Pass (α : Type) (R : Nat) where
  adjusted : List RayAttribute
  goals : List TraceAttribute
  goalValues : Vector (List α) R
  config : Config α
  maxIterations : Nat
  availableCount : Nat

inductive PassError (α : Type) where
  | setup (error : SetupError)
  | config (error : ConfigError α)

inductive PassFault where
  | aim (error : AimError)
  | solver (fault : Fault)
deriving DecidableEq

structure Summary (α : Type) where
  rayCount : Nat
  goalCount : Nat
  startCount : Nat
  adjustedCount : Nat
  failedCount : Nat
  /-- The rms over all goals after the pass, if there is a builder to ask. -/
  rms : Option α

structure Tally where
  starts : Nat
  adjusted : Nat
  failed : Nat
deriving Repr, DecidableEq

def Tally.none : Tally := { starts := 0, adjusted := 0, failed := 0 }

def Tally.count (tally : Tally) (adjusted : Bool) : Tally where
  starts := tally.starts + 1
  adjusted := if adjusted then tally.adjusted + 1 else tally.adjusted
  failed := if adjusted then tally.failed else tally.failed + 1

variable [Scalar α]

def defaultMaxIterations : Int := 10

/-- How much a sum of squares has to fall, relatively, to go on. -/
def tolerance : α := 1e-12

/-- Sets a pass up. The errors are met in this order: a number of adjustables or
of goals out of range, goals for another number of rays, no good rays. -/
def plan (tracer : Tracer α τ S R) (adjusted : List RayAttribute) (goals : List TraceAttribute)
    (goalValues : List (List α)) (maxIterations : Int) :
    ExceptT (PassError α) (Act α (World α τ S R)) (Pass α R) := do
  if adjusted.length < 1 then throw (.setup .noAdjustables)
  if adjusted.length > mostAdjustables then
    throw (.setup (.tooManyAdjustables adjusted.length mostAdjustables))
  if goals.length < 1 then throw (.setup .noRayGoals)
  if goals.length > mostGoals then throw (.setup (.tooManyGoals goals.length mostGoals))
  if rows : goalValues.length = R then
    match Config.usual adjusted.length goals.length tolerance .steering with
    | .error error => throw (.config error)
    | .ok config =>
      let availableCount ← ExceptT.lift (World.ask (tracer.buildRays true))
      if availableCount < 1 then throw (.setup (.noGoodRays R))
      return {
        adjusted, goals, config, availableCount
        goalValues := exactVector goalValues rows
        maxIterations := maxIterations.toNat }
  else throw (.setup (.goalRows R goalValues.length))

/-- At most `iterations` outer iterations; the state reached, or none if a trace
failed or an iteration ended badly. -/
def approach {m n : Nat} (host : Host α (Measured α (Course α τ S R) m n)) (config : Config α) :
    (iterations : Nat) → Solver.State α →
      ExceptT Fault (Act α (Measured α (Course α τ S R) m n)) (Option (Solver.State α))
  | 0, state => return some state
  | iterations + 1, state => do
    let (state, status) ← Solver.iterate host config state
    if (← get).problem.wentBad || status = .bad then return none
    if status = .level then return some state
    approach host config iterations state

namespace Pass

variable (pass : Pass α R) (tracer : Tracer α τ S R)

def host (aim : Aim α) :
    Host α (Measured α (Course α τ S R) aim.goals.length aim.adjusted.length) :=
  (problem tracer aim).host (steps aim defaultStep)

/-- The fit of one ray, on the world alone: the course is made for it and left
behind. -/
def fit (aim : Aim α) :
    ExceptT Fault (Act α (World α τ S R)) (Option (Solver.State α)) :=
  Act.within (fun world => Problem.initial (Course.initial aim world))
    (fun _ measured => measured.problem.world)
    (approach (host tracer aim) pass.config pass.maxIterations (.initial pass.config)).run

/-- Steers one ray; whether it finished without failing. -/
def steer (ray : Fin R) : ExceptT PassFault (Act α (World α τ S R)) Bool := do
  match Aim.make (ray.val : Int) pass.adjusted pass.goals (pass.goalValues.get ray) with
  | .error error => throw (.aim error)
  | .ok aim =>
    match ← (fit pass tracer aim).adapt PassFault.solver with
    | some state =>
        Act.note (.raySteered ray state.outer state.sos)
        return true
    | none =>
        Act.note (.rayWentBad ray)
        return false

def visit (tally : Tally) (ray : Fin R) : ExceptT PassFault (Act α (World α τ S R)) Tally := do
  if ← ExceptT.lift (World.ask (tracer.runOneRay ray.val)) then
    return tally.count (← steer pass tracer ray)
  else return tally

/-- The rms over all goals, measured afresh; none without a builder. -/
def finalRms (builder : Option (ResidualBuilder α τ S R)) :
    Act α (World α τ S R) (Option α) := do
  match builder with
  | none => return none
  | some builder =>
      discard <| World.ask (tracer.buildRays true)
      World.ask builder.compute
      return some (← World.ask builder.rms)

/-- Steers every ray that traces, in the order of the table, and then measures
the rms. -/
def run (measure : ExceptT Fault (Act α (World α τ S R)) (Option α)) :
    ExceptT PassFault (Act α (World α τ S R)) (Summary α) := do
  let tally ← (List.finRange R).foldlM (visit pass tracer) Tally.none
  let rms ← measure.adapt PassFault.solver
  if tally.starts ≠ pass.availableCount then
    Act.note (.startsDiffer pass.availableCount tally.starts)
  Act.note (.steeringDone tally.adjusted tally.failed R)
  return {
    rayCount := R
    goalCount := pass.goals.length
    startCount := pass.availableCount
    adjustedCount := tally.adjusted
    failedCount := tally.failed
    rms }

end Pass

end OpticTune.Steer
