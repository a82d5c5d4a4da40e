import OpticTune.Optics.Bench
import OpticTune.Solver.FiniteDifference

namespace OpticTune.Steer

/-! The start of one ray steered onto its goals, as a finite-difference problem.

The parameters are one or two start attributes of the ray, and the residuals one
or two of its outputs at the final surface less their goals.
-/

open Optics
open Solver (Problem)

variable {α τ : Type} {S R : Nat}

def mostAdjustables : Nat := 2
def mostGoals : Nat := 2

/-- The world, with the ray's latest residuals and whether it ever failed to
trace. -/
structure Course (α τ : Type) (S R : Nat) where
  world : World α τ S R
  residuals : List α
  wentBad : Bool

inductive AimError where
  | adjustables (found : Nat)
  | goals (found : Nat)
  | goalValues
deriving Repr, DecidableEq

def AimError.message : AimError → String
  | adjustables found =>
      "need 1 to " ++ toString mostAdjustables ++ " ray adjustables, got " ++ toString found
  | goals found => "need 1 to " ++ toString mostGoals ++ " goals, got " ++ toString found
  | goalValues => "one goal value is needed per goal attribute"

structure Aim (α : Type) where
  ray : Int
  adjusted : List RayAttribute
  goals : List TraceAttribute
  values : List α

def Aim.make (ray : Int) (adjusted : List RayAttribute) (goals : List TraceAttribute)
    (values : List α) : Except AimError (Aim α) := do
  unless 1 ≤ adjusted.length ∧ adjusted.length ≤ mostAdjustables do
    throw (.adjustables adjusted.length)
  unless 1 ≤ goals.length ∧ goals.length ≤ mostGoals do throw (.goals goals.length)
  unless values.length = goals.length do throw .goalValues
  return { ray, adjusted, goals, values }

def inWorld {β : Type} (action : Act α (World α τ S R) β) : Act α (Course α τ S R) β :=
  Act.within Course.world (fun course world => { course with world }) action

section Moves

variable [Add α]

def moveRay (aim : Aim α) (delta : List α) (system : OpticalSystem α S R) :
    OpticalSystem α S R :=
  (aim.adjusted.zip delta).foldl
    (fun system (column, amount) => system.nudgeRay aim.ray column.number amount) system

/-- The same change, refused if the number of the ray is too large. -/
def checkedMoveRay (aim : Aim α) (delta : List α) :
    ExceptT PlaceError (Act α (OpticalSystem α S R)) Unit :=
  (aim.adjusted.zip delta).forM fun (column, amount) =>
    Act.change fun system => system.checkedNudgeRay aim.ray column.number amount

def checkedChange (aim : Aim α) (delta : List α) :
    ExceptT PlaceError (Act α (Course α τ S R)) Unit :=
  ExceptT.mk (inWorld (World.onSystem (checkedMoveRay aim delta)).run)

end Moves

variable [Scalar α]

def Course.initial (aim : Aim α) (world : World α τ S R) : Course α τ S R where
  world := world
  residuals := aim.values.map fun _ => 0
  wentBad := false

/-- Traces the ray and compares its outputs at the final surface with its goals. -/
def evaluate (tracer : Tracer α τ S R) (aim : Aim α) : Act α (Course α τ S R) (Option α) := do
  if ← inWorld (World.ask (tracer.runOneRay aim.ray)) then
    let finalSurface : Int := (S : Int) - 1
    let outputs ← aim.goals.mapM fun goal =>
      inWorld (World.ask (tracer.rayOutput aim.ray finalSurface goal))
    let residuals := outputs.zipWith (fun output value => output - value) aim.values
    modify fun course => { course with residuals }
    return some (Scalar.sumOfSquares residuals)
  else
    modify fun course => { course with wentBad := true }
    return none

def problem (tracer : Tracer α τ S R) (aim : Aim α) : Problem α (Course α τ S R) where
  apply delta := inWorld (World.changeSystem (moveRay aim delta))
  evaluate := evaluate tracer aim
  residuals := return (← get).residuals

def defaultStep : α := 1e-6

def steps (aim : Aim α) (step : α) : Vector α aim.adjusted.length :=
  Vector.replicate _ step

end OpticTune.Steer
