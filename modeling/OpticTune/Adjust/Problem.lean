import OpticTune.Optics.Adjustable
import OpticTune.Optics.Bench
import OpticTune.Solver.FiniteDifference

namespace OpticTune.Adjust

/-! Surfaces and ray starts adjusted together, as a finite-difference problem.

The parameters are the surface adjustables followed by the ray adjustables. A
change moves the master cell of each and its linked cells; a SHAPE master takes
ASPHER of the same surface along, so that the two descriptions of the conic stay
in step. Every evaluation traces the rays that were good at setup, and fails if
one of them is lost.
-/

open Optics
open Solver (Problem)

variable {α τ : Type} {S R : Nat}

/-- The world, with the figures of the latest evaluation that succeeded. -/
structure Store (α τ : Type) (S R : Nat) where
  world : World α τ S R
  sos : Option α
  rms : Option α

def Store.initial (world : World α τ S R) : Store α τ S R :=
  { world, sos := none, rms := none }

def inWorld {β : Type} (action : Act α (World α τ S R) β) : Act α (Store α τ S R) β :=
  Act.within Store.world (fun store world => { store with world }) action

def movesAngles (surfaces : List Adjustable) : Bool :=
  surfaces.any fun adjustable => decide (adjustable.column ∈ Surface.angles)

section Moves

variable [Scalar α]

def carried (link : Link) (amount : α) : α :=
  ((link.sign : Int) : α) * amount

def moveSurface (system : OpticalSystem α S R) (adjustable : Adjustable) (amount : α) :
    OpticalSystem α S R :=
  let column := adjustable.column
  let moved := system.nudgeSurface adjustable.record column amount
  let ganged := adjustable.links.foldl
    (fun system link => system.nudgeSurface link.record column (carried link amount)) moved
  if column = Surface.shape then ganged.nudgeSurface adjustable.record Surface.aspher amount
  else ganged

def moveRay (system : OpticalSystem α S R) (adjustable : Adjustable) (amount : α) :
    OpticalSystem α S R :=
  let column := adjustable.column
  adjustable.links.foldl
    (fun system link => system.nudgeRay link.record column (carried link amount))
    (system.nudgeRay adjustable.record column amount)

def moveSurfaces (surfaces : List Adjustable) (delta : List α) (system : OpticalSystem α S R) :
    OpticalSystem α S R :=
  (surfaces.zip delta).foldl
    (fun system (adjustable, amount) => moveSurface system adjustable amount) system

def moveRays (rays : List Adjustable) (delta : List α) (system : OpticalSystem α S R) :
    OpticalSystem α S R :=
  (rays.zip delta).foldl (fun system (adjustable, amount) => moveRay system adjustable amount)
    system

/-- Orientations are taken over once, after all surface cells have moved. -/
def apply (tracer : Tracer α τ S R) (surfaces rays : List Adjustable) (delta : List α) :
    Act α (World α τ S R) Unit := do
  World.changeSystem (moveSurfaces surfaces delta)
  if movesAngles surfaces then World.ask tracer.updateOrientations
  World.changeSystem (moveRays rays (delta.drop surfaces.length))

end Moves

def evaluate (tracer : Tracer α τ S R) (builder : ResidualBuilder α τ S R) (goodCount : Nat) :
    Act α (Store α τ S R) (Option α) := do
  let traced ← inWorld (World.ask (tracer.buildRays false))
  if traced < goodCount then
    Act.report (.raysLost traced goodCount)
    return none
  inWorld (World.ask builder.compute)
  let sos ← inWorld (World.ask builder.sos)
  let rms ← inWorld (World.ask builder.rms)
  modify fun store => { store with sos := some sos, rms := some rms }
  return some sos

def problem [Scalar α] (tracer : Tracer α τ S R) (builder : ResidualBuilder α τ S R)
    (surfaces rays : List Adjustable) (goodCount : Nat) : Problem α (Store α τ S R) where
  apply delta := inWorld (apply tracer surfaces rays delta)
  evaluate := evaluate tracer builder goodCount
  residuals := inWorld (World.ask builder.residuals)

/-- There must be one step for every adjustable. -/
structure StepCountError where
  adjustables : Nat
  steps : Nat
deriving Repr, DecidableEq

def StepCountError.message (error : StepCountError) : String :=
  toString error.adjustables ++ " adjustables but " ++ toString error.steps ++ " steps"

def steps (adjustables : Nat) (steps : List α) : Except StepCountError (Vector α adjustables) :=
  if count : steps.length = adjustables then .ok (exactVector steps count)
  else .error { adjustables, steps := steps.length }

end OpticTune.Adjust
