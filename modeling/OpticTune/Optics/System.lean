import OpticTune.Optics.Attribute
import OpticTune.Scalar
import OpticTune.Table.Nested

namespace OpticTune.Optics

/-! The numbers an adjustment may move: a row of attributes for every surface
and a row of start values for every ray. -/

variable {α : Type} {S R : Nat}

structure OpticalSystem (α : Type) (S R : Nat) where
  surfaces : Table α S Surface.columnCount
  rays : Table α R RayAttribute.columnCount
  /-- The characteristic size of the optics, by which linear steps are scaled. -/
  size : α

inductive SystemError (α : Type) where
  /-- A table is ragged or holds words, or the surfaces are nested too deep. -/
  | shape
  | empty
  | surfaceColumns (found : Nat)
  | rayColumns (found : Nat)
  | size (found : α)

/-- What a user is told, reals being written by `write`; tables of no shape have
no message. -/
def SystemError.message (write : α → String) : SystemError α → Option String
  | shape => none
  | empty => some "need at least one surface and one ray"
  | surfaceColumns found =>
      some s!"surface rows have {found} columns, max {Surface.columnCount}"
  | rayColumns found => some s!"ray rows need {RayAttribute.columnCount} columns, got {found}"
  | size found => some s!"osize must be positive, got {write found}"

namespace OpticalSystem

section Cells

variable [Add α]

def nudgeSurface (system : OpticalSystem α S R) (surface column : Int) (amount : α) :
    OpticalSystem α S R :=
  { system with surfaces := system.surfaces.add surface column amount }

def nudgeRay (system : OpticalSystem α S R) (ray column : Int) (amount : α) :
    OpticalSystem α S R :=
  { system with rays := system.rays.add ray column amount }

/-! Numbers that are too large to name a cell are refused. The changes above take
them for places outside. -/

def checkedNudgeSurface (system : OpticalSystem α S R) (surface column : Int) (amount : α) :
    Except PlaceError (OpticalSystem α S R) := do
  return { system with surfaces := ← system.surfaces.checkedAdd surface column amount }

def checkedNudgeRay (system : OpticalSystem α S R) (ray column : Int) (amount : α) :
    Except PlaceError (OpticalSystem α S R) := do
  return { system with rays := ← system.rays.checkedAdd ray column amount }

end Cells

variable [Scalar α]

/-- The value of a cell; zero where none can be read. -/
def surfaceValue (system : OpticalSystem α S R) (surface column : Int) : α :=
  (system.surfaces.read surface column).toOption.getD 0

def rayValue (system : OpticalSystem α S R) (ray column : Int) : α :=
  (system.rays.read ray column).toOption.getD 0

/-- The largest magnitude among the X and Y of the surfaces; not a number if one
of them is not. -/
def lateralExtent (surfaces : Table α S Surface.columnCount) : α :=
  let magnitudes : Vector (List α) S := Vector.ofFn fun i =>
    [Scalar.abs (surfaces.get i ⟨0, by decide⟩), Scalar.abs (surfaces.get i ⟨1, by decide⟩)]
  magnitudes.toList.flatten.foldl (fun best x => if Scalar.outranks x best then x else best) 0

def defaultSize (surfaces : Table α S Surface.columnCount) : α :=
  let extent := lateralExtent surfaces
  if Scalar.lt 0 extent then extent else 1

/-- Surface rows may be narrower than the table, which is filled up with zeros;
ray rows have exactly the columns of the table. -/
def make (surfaces rays : Sheet α) (size : Option α) :
    Except (SystemError α) (Σ S R, OpticalSystem α S R) := do
  if surfaces.rowCount < 1 ∨ rays.rowCount < 1 then throw .empty
  if surfaces.columnCount > Surface.columnCount then
    throw (.surfaceColumns surfaces.columnCount)
  if columns : rays.columnCount = RayAttribute.columnCount then
    if surfaces.isDeep then throw .shape
    let wide : Table α surfaces.rowCount Surface.columnCount := Table.ofFn fun i j =>
      if h : j.val < surfaces.columnCount then surfaces.table.get i ⟨j.val, h⟩ else 0
    let size := size.getD (defaultSize wide)
    unless Scalar.lt 0 size do throw (.size size)
    return ⟨_, _, { surfaces := wide, rays := columns ▸ rays.table, size }⟩
  else throw (.rayColumns rays.columnCount)

/-- A system from tables as they were given; both are read before either is
checked. -/
def ofSheets? (surfaces rays : Option (Sheet α)) (size : Option α) :
    Except (SystemError α) (Σ S R, OpticalSystem α S R) :=
  match surfaces, rays with
  | some surfaces, some rays => make surfaces rays size
  | _, _ => .error .shape

end OpticalSystem

end OpticTune.Optics
