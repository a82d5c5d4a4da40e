import OpticTune.Act
import OpticTune.Optics.System

namespace OpticTune.Optics

/-! What an adjustment asks of its surroundings.

The ray tracer and the residual builder stand on a bench, which has a state of
its own. They may look at the optical system but do not change it: the system
belongs to the adjustment. Every question may change the bench, so a tracer or a
builder that answers differently from call to call is one as well.
-/

variable {α τ β : Type} {S R : Nat}

def Query (α τ : Type) (S R : Nat) (β : Type) : Type :=
  OpticalSystem α S R → τ → β × τ

/-- Rays and surfaces are given by their places in the tables. -/
structure Tracer (α τ : Type) (S R : Nat) where
  /-- Traces all rays, or only those good at the last full build, and counts the
  rays that succeed. -/
  buildRays : (all : Bool) → Query α τ S R Nat
  isGood : (ray : Int) → Query α τ S R Bool
  /-- Traces one ray; whether it reaches the final surface. -/
  runOneRay : (ray : Int) → Query α τ S R Bool
  rayOutput : (ray surface : Int) → TraceAttribute → Query α τ S R α
  /-- Takes over the orientations of the surfaces after an angle changed. -/
  updateOrientations : Query α τ S R Unit

structure ResidualBuilder (α τ : Type) (S R : Nat) where
  goalCount : Query α τ S R Nat
  pointCount : Query α τ S R Nat
  residuals : Query α τ S R (List α)
  sos : Query α τ S R α
  rms : Query α τ S R α
  compute : Query α τ S R Unit

structure World (α τ : Type) (S R : Nat) where
  system : OpticalSystem α S R
  bench : τ

def World.ask (query : Query α τ S R β) : Act α (World α τ S R) β := fun world =>
  let answer := query world.system world.bench
  { value := answer.1, state := { world with bench := answer.2 }, log := [] }

@[simp]
theorem World.value_ask (query : Query α τ S R β) (world : World α τ S R) :
    (ask query world).value = (query world.system world.bench).1 := rfl

@[simp]
theorem World.state_ask (query : Query α τ S R β) (world : World α τ S R) :
    (ask query world).state = { world with bench := (query world.system world.bench).2 } := rfl

def World.changeSystem (change : OpticalSystem α S R → OpticalSystem α S R) :
    Act α (World α τ S R) Unit :=
  modify fun world => { world with system := change world.system }

def World.onSystem {ε : Type} (action : ExceptT ε (Act α (OpticalSystem α S R)) β) :
    ExceptT ε (Act α (World α τ S R)) β :=
  ExceptT.mk (Act.within World.system (fun world system => { world with system }) action.run)

end OpticTune.Optics
