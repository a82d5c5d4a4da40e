import OpticTune.Optics.Bench

namespace OpticTune.Sample

/-! A tracer whose rays meet every surface in the same point. The bench is true
once an answer was wanted that there is none of. -/

open Optics

variable {α : Type} {S R : Nat}

structure Points (α : Type) where
  points : List (List α)
  good : List Bool

/-- An answer from a list, or a spare one that is remarked. -/
def remarked {β : Type} (values : List β) (place : Int) (spare : β) (stuck : Bool) : β × Bool :=
  match entryAt? values place with
  | some value => (value, stuck)
  | none => (spare, true)

def Points.tracer [Zero α] (points : Points α) : Tracer α Bool S R where
  buildRays _ := fun _ stuck => (0, stuck)
  isGood ray := fun _ stuck => remarked points.good ray false stuck
  runOneRay ray := fun _ stuck => remarked points.good ray false stuck
  rayOutput ray _ output := fun _ stuck =>
    let (point, stuck) := remarked points.points ray [0, 0] stuck
    remarked point (if output = .xl then 0 else 1) 0 stuck
  updateOrientations := fun _ stuck => ((), stuck)

end OpticTune.Sample
