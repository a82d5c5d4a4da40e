import OpticTune.Adjust.Checked
import OpticTune.Adjust.Progress
import OpticTune.Optics.Steps
import OpticTune.Options
import OpticTune.Setup
import OpticTune.Solver.Fit

namespace OpticTune.Adjust

/-! An adjustment advanced tick by tick.

A plan holds what is fixed at setup: at least one goal, one adjustable and one
ray that traces, and as many residuals as good rays times goals. A session is
the state of a planned adjustment. Every tick performs one outer iteration until
a terminal status is reached; the tick that reaches the cap performs none.

A session may be advanced on any host of its plan. On the plan's own host every
change is made; on the checked one an iteration is stopped if a cell is out of
reach.
-/

open Optics
open Solver (Config ConfigError Fault Fit Host Measured Problem Status)

variable {α τ : Type} {S R : Nat}

/-- Surface adjustables, then ray adjustables, with the steps they are measured
by. -/
structure Plan (α : Type) where
  options : Options α
  surfaces : List Adjustable
  rays : List Adjustable
  steps : Vector α (surfaces.length + rays.length)
  goodCount : Nat
  goalCount : Nat
  /-- The residuals counted when the host was set up. -/
  pointCount : Nat
  config : Config α
  wavefrontGoal : Bool

inductive PlanError (α : Type) where
  | setup (error : SetupError)
  | step (error : StepError)
  | stepCount (error : StepCountError)
  | config (error : ConfigError α)

namespace Plan

def adjustableCount (plan : Plan α) : Nat :=
  plan.surfaces.length + plan.rays.length

def termCount (plan : Plan α) : Nat :=
  plan.goodCount * plan.goalCount

end Plan

structure Session (α τ : Type) (S R : Nat) (plan : Plan α) where
  fit : Fit α (Measured α (Store α τ S R) plan.pointCount plan.adjustableCount)
  iteration : Nat
  status : Option Status
  rms : α

variable [Scalar α]

/-- Sets an adjustment up. The errors are met in this order: no goals, no
adjustables, no good rays, a step that does not exist, a wrong number of
residuals. -/
def plan [Planar α] (tracer : Tracer α τ S R) (builder : ResidualBuilder α τ S R)
    (surfaces rays : List Adjustable) (options : Options α) (wavefrontGoal : Bool) :
    ExceptT (PlanError α) (Act α (World α τ S R)) (Plan α × α) := do
  let ask {β : Type} (query : Query α τ S R β) :
      ExceptT (PlanError α) (Act α (World α τ S R)) β := ExceptT.lift (World.ask query)
  let goalCount ← ask builder.goalCount
  if goalCount < 1 then throw (.setup .noGoals)
  let adjustableCount := surfaces.length + rays.length
  if adjustableCount < 1 then throw (.setup .noAdjustables)
  let goodCount ← ask (tracer.buildRays true)
  if goodCount < 1 then throw (.setup (.noGoodRays R))
  let termCount := goodCount * goalCount
  let found ← (adjustmentSteps tracer surfaces rays options.step).adapt PlanError.step
  ask builder.compute
  unless (← ask builder.pointCount) = termCount do
    throw (.setup (.residualCount termCount (← ask builder.pointCount)))
  let steps ← liftExcept .stepCount (steps (surfaces.length + rays.length) found)
  let pointCount ← ask builder.pointCount
  let config ← liftExcept .config
    (Config.usual adjustableCount termCount options.tolerance .adjustment)
  let rms ← ask builder.rms
  Act.note (.adjustmentReady adjustableCount goodCount goalCount rms)
  return ({ options, surfaces, rays, steps, goodCount, goalCount, pointCount, config,
            wavefrontGoal }, rms)
where
  liftExcept {ε β : Type} (wrap : ε → PlanError α) (result : Except ε β) :
      ExceptT (PlanError α) (Act α (World α τ S R)) β :=
    match result with
    | .ok value => pure value
    | .error error => throw (wrap error)

def Plan.host (plan : Plan α) (tracer : Tracer α τ S R) (builder : ResidualBuilder α τ S R) :
    Host α (Measured α (Store α τ S R) plan.pointCount plan.adjustableCount) :=
  (problem tracer builder plan.surfaces plan.rays plan.goodCount).host plan.steps

/-- Whether the parameters of a plan can all be moved. -/
def Plan.isInReach (plan : Plan α) (S R : Nat) : Bool :=
  Adjust.isInReach S R plan.surfaces plan.rays plan.adjustableCount

/-- The host of a plan some of whose cells may be out of reach. An iteration changes
all parameters at a time, so each of its changes is refused if one is; the first of
them is made when the Jacobian is built. -/
def Plan.checkedHost (plan : Plan α) (tracer : Tracer α τ S R) (builder : ResidualBuilder α τ S R) :
    Host α (Measured α (Store α τ S R) plan.pointCount plan.adjustableCount) :=
  let host := plan.host tracer builder
  { host with
    buildJacobian := do
      unless plan.isInReach S R do
        let first := Problem.firstChange plan.steps
        let change : ExceptT PlaceError
            (Act α (Measured α (Store α τ S R) plan.pointCount plan.adjustableCount)) Unit :=
          ExceptT.mk (Problem.onProblem (checkedChange tracer plan.surfaces plan.rays first).run)
        change.adapt Fault.refused
      host.buildJacobian }

namespace Session

variable {plan : Plan α}

def start (plan : Plan α) (world : World α τ S R) (rms : α) : Session α τ S R plan where
  fit := .start plan.config (Problem.initial (Store.initial world))
  iteration := 0
  status := none
  rms := rms

/-- The status the latest tick ended the adjustment with, if it did. -/
def ending (session : Session α τ S R plan) : Option Status :=
  session.status.filter Status.isTerminal

def complete (session : Session α τ S R plan) : Bool :=
  session.ending.isSome

def progress (session : Session α τ S R plan) : Progress α where
  iteration := session.iteration
  rms := session.rms
  rayCount := plan.goodCount
  goalCount := plan.goalCount
  termCount := plan.termCount
  adjustableCount := plan.adjustableCount
  status := session.status
  note := Note.ofGoals plan.goalCount plan.wavefrontGoal

def onFit {β : Type}
    (action : Act α (Fit α (Measured α (Store α τ S R) plan.pointCount plan.adjustableCount)) β) :
    Act α (Session α τ S R plan) β :=
  Act.within Session.fit (fun session fit => { session with fit }) action

def onWorld {β : Type} (action : Act α (World α τ S R) β) : Act α (Session α τ S R plan) β :=
  onFit (Fit.onHost (Problem.onProblem (inWorld action)))

def reachCap : ExceptT Fault (Act α (Session α τ S R plan)) Status := do
  modify fun session => { session with status := some .max }
  return .max

section Host

variable (host : Host α (Measured α (Store α τ S R) plan.pointCount plan.adjustableCount))
  (builder : ResidualBuilder α τ S R)

def iterateOn : ExceptT Fault (Act α (Session α τ S R plan)) Status := do
  let iteration : ExceptT Fault (Act α (Session α τ S R plan)) (Solver.State α × Status) :=
    onFit (Fit.iterate host plan.config).run
  let (_, status) ← iteration
  modify fun session => { session with status := some status }
  return status

/-- Advances the adjustment. After its end a tick answers with the final status
and does nothing else. -/
def tickOn : ExceptT Fault (Act α (Session α τ S R plan)) Status := do
  if let some status := (← get).ending then return status
  modify fun session => { session with iteration := session.iteration + 1 }
  let iteration := (← get).iteration
  let status ← if plan.options.maxIterations ≤ iteration then reachCap
    else iterateOn host
  let rms ← ExceptT.lift (onWorld (World.ask builder.rms))
  modify fun session => { session with rms }
  Act.note (.ticked iteration status rms (← get).fit.solver.damping)
  if status.isTerminal then Act.note (.adjustmentDone iteration status rms)
  return status

/-- At most `ticks` ticks, until the adjustment is complete; the progress after
each. -/
def runWithinOn :
    (ticks : Nat) → ExceptT Fault (Act α (Session α τ S R plan)) (List (Progress α))
  | 0 => return []
  | ticks + 1 => do
    if (← get).complete then return []
    discard <| tickOn host builder
    let progress := (← get).progress
    return progress :: (← runWithinOn ticks)

/-- Ticks until the adjustment is complete. Every tick counts, and the one that
reaches the cap is the last. -/
def runOn : ExceptT Fault (Act α (Session α τ S R plan)) (Option Status × List (Progress α)) := do
  let reports ← runWithinOn host builder (plan.options.maxIterations.toNat + 1)
  return ((← get).status, reports)

end Host

variable (tracer : Tracer α τ S R) (builder : ResidualBuilder α τ S R)

def iterate : ExceptT Fault (Act α (Session α τ S R plan)) Status :=
  iterateOn (plan.host tracer builder)

def tick : ExceptT Fault (Act α (Session α τ S R plan)) Status :=
  tickOn (plan.host tracer builder) builder

def runWithin : (ticks : Nat) → ExceptT Fault (Act α (Session α τ S R plan)) (List (Progress α)) :=
  runWithinOn (plan.host tracer builder) builder

def run : ExceptT Fault (Act α (Session α τ S R plan)) (Option Status × List (Progress α)) :=
  runOn (plan.host tracer builder) builder

def checkedTick : ExceptT Fault (Act α (Session α τ S R plan)) Status :=
  tickOn (plan.checkedHost tracer builder) builder

def checkedRun : ExceptT Fault (Act α (Session α τ S R plan))
    (Option Status × List (Progress α)) :=
  runOn (plan.checkedHost tracer builder) builder

end Session

end OpticTune.Adjust
