import OpticTune.Optics.Adjustable
import OpticTune.Optics.Bench

namespace OpticTune.Optics

/-! How far each adjustable is moved to measure its effect.

Positions scale with the size of the optics, angles by a fixed factor,
curvatures with the inverse of the footprint radius, and the polynomial
coefficient of order `n` with `1 / (n * r ^ (n - 1))`, so that every move changes
the sag at the edge of the footprint by a like amount.
-/

variable {α τ : Type} {S R : Nat} [Scalar α]

inductive StepError where
  | divisionByZero
  /-- A power of a finite radius is not finite. -/
  | powerOverflow
deriving Repr, DecidableEq

def angleFactor : α := 60.0
def zernikeFactor : α := 0.01

/-- Footprints below this radius are replaced by half the optics size. -/
def leastFootprint : α := 1e-6

/-- The largest radius of the good rays at a surface; zero if none is good. -/
def footprintRadius [Planar α] (tracer : Tracer α τ S R) (surface : Int) (rayCount : Nat) :
    Act α (World α τ S R) α :=
  (List.range rayCount).foldlM (fun radius ray => widen ray radius) 0
where
  widen (ray : Nat) (radius : α) : Act α (World α τ S R) α := do
    if ← World.ask (tracer.isGood ray) then
      let x ← World.ask (tracer.rayOutput ray surface .xl)
      let y ← World.ask (tracer.rayOutput ray surface .yl)
      return Scalar.max radius (Planar.hypot x y)
    else return radius

def quotient (x y : α) : Except StepError α :=
  if Scalar.isZero y then .error .divisionByZero else .ok (x / y)

def power (x : α) (n : Nat) : Except StepError α :=
  let result := Scalar.power x n
  if Scalar.isFinite x && !Scalar.isFinite result then .error .powerOverflow else .ok result

def surfaceStep (column : Int) (userStep size radius : α) : Except StepError α := do
  if Surface.isZernike column then return zernikeFactor * userStep
  let radius := if Scalar.lt radius leastFootprint then 0.5 * size else radius
  if column ∈ Surface.positions then return userStep * size
  if column ∈ Surface.angles then return angleFactor * userStep
  if column ∈ Surface.curvatures then return ← quotient userStep radius
  let order := Surface.polynomialOrder column
  if order ≥ 2 then
    return ← quotient userStep (((order : Int) : α) * (← power radius (order - 1)))
  return userStep

def rayStep (column : Int) (userStep size : α) : α :=
  if column ∈ RayAttribute.positions then userStep * size else userStep

/-- The steps of surface adjustables. The radius at a surface is measured once
and then remembered in `radii`. -/
def surfaceSteps [Planar α] (tracer : Tracer α τ S R) (userStep : α) :
    List Adjustable → (radii : List (Int × α)) →
      ExceptT StepError (Act α (World α τ S R)) (List α)
  | [], _ => return []
  | adjustable :: rest, radii => do
    let surface := adjustable.record
    let known := radii.lookup surface
    let radius ← match known with
      | some radius => pure radius
      | none => ExceptT.lift (footprintRadius tracer surface R)
    let radii := if known.isSome then radii else (surface, radius) :: radii
    let size := (← get).system.size
    let step ← surfaceStep adjustable.column userStep size radius
    let steps ← surfaceSteps tracer userStep rest radii
    return step :: steps

/-- One step for every adjustable, surfaces before rays. The good rays and their
traces have to be those of a full build. -/
def adjustmentSteps [Planar α] (tracer : Tracer α τ S R) (surfaces rays : List Adjustable)
    (userStep : α) : ExceptT StepError (Act α (World α τ S R)) (List α) := do
  let steps ← surfaceSteps tracer userStep surfaces []
  let size := (← get).system.size
  return steps ++ rays.map fun adjustable => rayStep adjustable.column userStep size

end OpticTune.Optics
