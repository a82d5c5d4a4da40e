import OpticTune.Adjust.Problem

namespace OpticTune.Adjust

/-! Changes that are refused where a cell is out of reach.

The places of cells and the signs of links are machine words. A change is made
cell by cell, and refused at the first number that is none; what was moved before
stays moved.
-/

open Optics

variable {α τ : Type} {S R : Nat}

/-- Whether an adjustable can be moved in a table. -/
def isMovable (rows columns : Nat) (adjustable : Adjustable) : Bool :=
  isCellWritable rows columns adjustable.record adjustable.column &&
    adjustable.links.all fun link =>
      Word.holds link.sign && isCellWritable rows columns link.record adjustable.column

/-- Whether all that a change of `count` parameters moves can be moved. -/
def isInReach (S R : Nat) (surfaces rays : List Adjustable) (count : Nat) : Bool :=
  (surfaces.take count).all (isMovable S Surface.columnCount) &&
    (rays.take (count - surfaces.length)).all (isMovable R RayAttribute.columnCount)

variable [Scalar α]

def checkedCarried (link : Link) (amount : α) : Except PlaceError α :=
  if Word.holds link.sign then .ok (carried link amount) else .error .tooFar

/-- Moves the master cell and then the linked cells. -/
def checkedGang
    (nudge : OpticalSystem α S R → (record column : Int) → α →
      Except PlaceError (OpticalSystem α S R))
    (adjustable : Adjustable) (amount : α) :
    ExceptT PlaceError (Act α (OpticalSystem α S R)) Unit := do
  let column := adjustable.column
  Act.change fun system => nudge system adjustable.record column amount
  adjustable.links.forM fun link => Act.change fun system => do
    nudge system link.record column (← checkedCarried link amount)

def checkedMoveSurface (adjustable : Adjustable) (amount : α) :
    ExceptT PlaceError (Act α (OpticalSystem α S R)) Unit := do
  checkedGang OpticalSystem.checkedNudgeSurface adjustable amount
  if adjustable.column = Surface.shape then
    Act.change fun system =>
      system.checkedNudgeSurface adjustable.record Surface.aspher amount

def checkedMoveRay (adjustable : Adjustable) (amount : α) :
    ExceptT PlaceError (Act α (OpticalSystem α S R)) Unit :=
  checkedGang OpticalSystem.checkedNudgeRay adjustable amount

def checkedApply (tracer : Tracer α τ S R) (surfaces rays : List Adjustable) (delta : List α) :
    ExceptT PlaceError (Act α (World α τ S R)) Unit := do
  World.onSystem <| (surfaces.zip delta).forM fun (adjustable, amount) =>
    checkedMoveSurface adjustable amount
  if movesAngles surfaces then ExceptT.lift (World.ask tracer.updateOrientations)
  World.onSystem <| (rays.zip (delta.drop surfaces.length)).forM fun (adjustable, amount) =>
    checkedMoveRay adjustable amount

/-- A change of a problem's parameters. -/
def checkedChange (tracer : Tracer α τ S R) (surfaces rays : List Adjustable) (delta : List α) :
    ExceptT PlaceError (Act α (Store α τ S R)) Unit :=
  ExceptT.mk (inWorld (checkedApply tracer surfaces rays delta).run)

end OpticTune.Adjust
