import OpticTune.Optics.Bench
import OpticTune.Scalar.Double

namespace OpticTune.Sample

/-! A bench of thin lenses, one for every surface.

A ray keeps its direction between the lenses and is bent at each of them by the
surface's attributes. It fails where it is too steep at its start or too far out
at a lens. The bench counts what it is asked, may be told to fail at some of
these questions, and remarks when an answer was wanted that there is none of.
-/

open Optics

variable {S R : Nat}

structure Lenses where
  distance : Float
  slopeLimit : Float
  aperture : Float
  /-- The partial builds, counted from 1, that fail. -/
  failedBuilds : List Int
  failedSingles : List Int

structure Goals where
  number : Int
  wanted : List (Int × List Float)

structure Bench where
  /-- The bends of every surface that come from its orientation. -/
  turns : List (Float × Float)
  outputs : Array (List (List Float))
  good : Array Bool
  fullyGood : Array Bool
  fullBuilds : Nat
  partialBuilds : Nat
  singles : Nat
  orientations : Nat
  computes : Nat
  residuals : List Float
  isStuck : Bool

def turnsOf (system : OpticalSystem Float S R) : List (Float × Float) :=
  (List.range S).map fun (k : Nat) =>
    let row (column : Int) := system.surfaceValue k column
    (row 3 + row 5, row 4 - row 5)

def Bench.start (system : OpticalSystem Float S R) : Bench where
  turns := turnsOf system
  outputs := Array.replicate R (List.replicate S (List.replicate 12 0.0))
  good := Array.replicate R false
  fullyGood := Array.replicate R false
  fullBuilds := 0
  partialBuilds := 0
  singles := 0
  orientations := 0
  computes := 0
  residuals := []
  isStuck := false

def Bench.output? (bench : Bench) (ray surface column : Int) : Option Float := do
  let outputs ← entryAt? bench.outputs.toList ray
  entryAt? (← entryAt? outputs surface) column

namespace Lenses

/-- The outputs at the surfaces from `k` on, or none if the ray fails. -/
def follow (lenses : Lenses) (system : OpticalSystem Float S R) (w : Float) :
    (k : Nat) → List (Float × Float) → (x y u v : Float) → Option (List (List Float))
  | _, [], _, _, _, _ => some []
  | k, (tx, ty) :: turns, x, y, u, v =>
      let row (column : Int) := system.surfaceValue k column
      let gap := lenses.distance + row 2 - system.surfaceValue ((k : Int) - 1) 2
      let x := if k > 0 then x + gap * u else x
      let y := if k > 0 then y + gap * v else y
      let xl := x - row 0
      let yl := y - row 1
      if xl.abs ≤ lenses.aperture && yl.abs ≤ lenses.aperture then
        let u := u - row 6 * xl - row 8 * xl * xl * xl + 0.01 * tx
        let v := v - (row 6 + row 7) * yl - row 9 * yl * yl * yl + 0.01 * ty
        let u := u - row 10 - 2.0 * row 11 * xl - 3.0 * row 12 * xl * xl
        let v := v - row 24 - row 27 * yl
        (follow lenses system w (k + 1) turns x y u v).map
          ([xl, yl, 0.0, u, v, w, x, y, row 2, u, v, w] :: ·)
      else none

/-- Traces one ray; a failed trace keeps the outputs of the one before. -/
def trace (lenses : Lenses) (system : OpticalSystem Float S R) (bench : Bench) (ray : Int) :
    Bool × Bench :=
  match exactPlace R ray with
  | none => (false, { bench with isStuck := true })
  | some ray =>
      let value (column : Int) := system.rayValue ray.val column
      let (u, v) := (value 3, value 4)
      let traced := if u.abs ≤ lenses.slopeLimit && v.abs ≤ lenses.slopeLimit then
          lenses.follow system (value 5) 0 bench.turns (value 0) (value 1) u v
        else none
      let outputs := match traced with
        | some outputs => bench.outputs.setIfInBounds ray outputs
        | none => bench.outputs
      let good := bench.good.setIfInBounds ray traced.isSome
      (traced.isSome, { bench with outputs, good })

def traceAll (lenses : Lenses) (system : OpticalSystem Float S R) (bench : Bench)
    (rays : List Nat) : Nat × Bench :=
  let bench := rays.foldl (fun bench (ray : Nat) => (lenses.trace system bench ray).2) bench
  ((bench.good.filter id).size, bench)

def tracer (lenses : Lenses) : Tracer Float Bench S R where
  buildRays all := fun system bench =>
    if all then
      let bench := { bench with fullBuilds := bench.fullBuilds + 1 }
      let (traced, bench) := lenses.traceAll system bench (List.range R)
      (traced, { bench with fullyGood := bench.good })
    else
      let bench := { bench with partialBuilds := bench.partialBuilds + 1 }
      if lenses.failedBuilds.contains bench.partialBuilds then (0, bench)
      else lenses.traceAll system bench
        ((List.range R).filter fun ray => bench.fullyGood.getD ray false)
  isGood ray := fun _ bench =>
    match entryAt? bench.good.toList ray with
    | some good => (good, bench)
    | none => (false, { bench with isStuck := true })
  runOneRay ray := fun system bench =>
    let bench := { bench with singles := bench.singles + 1 }
    if lenses.failedSingles.contains bench.singles then (false, bench)
    else lenses.trace system bench ray
  rayOutput ray surface output := fun _ bench =>
    match bench.output? ray surface output.number with
    | some value => (value, bench)
    | none => (0, { bench with isStuck := true })
  updateOrientations := fun system bench =>
    ((), { bench with turns := turnsOf system, orientations := bench.orientations + 1 })

end Lenses

namespace Goals

/-- The residuals of the good rays; none if an output or a value is missing. -/
def residuals? (goals : Goals) (S R : Nat) (bench : Bench) : Option (List Float) := do
  let rays := (List.range R).filter fun ray => bench.good.getD ray false
  let residuals ← rays.mapM fun (ray : Nat) =>
    goals.wanted.mapM fun (column, values) => do
      return (← bench.output? ray ((S : Int) - 1) column) - (← values[ray]?)
  return residuals.flatten

def builder (goals : Goals) : ResidualBuilder Float Bench S R where
  goalCount := fun _ bench => (goals.number.toNat, bench)
  pointCount := fun _ bench => (bench.residuals.length, bench)
  residuals := fun _ bench => (bench.residuals, bench)
  sos := fun _ bench => (Scalar.sumOfSquares bench.residuals, bench)
  rms := fun _ bench =>
    let number := bench.residuals.length
    let mean := Scalar.sumOfSquares bench.residuals / Float.ofNat number
    (if number = 0 then 0 else mean.sqrt, bench)
  compute := fun _ bench =>
    let bench := { bench with computes := bench.computes + 1 }
    match goals.residuals? S R bench with
    | some residuals => ((), { bench with residuals })
    | none => ((), { bench with isStuck := true })

end Goals

end OpticTune.Sample
