import OpticTune.Scalar

namespace OpticTune.Solver

/-! The settings fixed for one fit, and the little that is carried from one
outer iteration to the next. -/

variable {α : Type}

/-- The damping starts at `initialDamping`, is multiplied by `boost` after every
rejected trial and by `shrink` after an accepted one; reaching `maxDamping`
without an accepted trial ends the iteration. -/
structure Config (α : Type) where
  tolerance : α
  paramCount : Nat
  pointCount : Nat
  initialDamping : α
  maxDamping : α
  boost : α
  shrink : α

inductive ConfigError (α : Type) where
  | paramCount (found : Int)
  | pointCount (found : Int)
  | tolerance (found : α)
  | initialDamping (found : α)
  | maxDamping (found : α)
  | factors (shrink boost : α)

/-- What a user is told, reals being written by `write`. -/
def ConfigError.message (write : α → String) : ConfigError α → String
  | paramCount found => s!"n_params must be positive, got {found}"
  | pointCount found => s!"n_points must be positive, got {found}"
  | tolerance found => s!"tolerance must be positive, got {write found}"
  | initialDamping found => s!"initial damping must be positive, got {write found}"
  | maxDamping found => s!"max damping must be positive and finite, got {write found}"
  | factors shrink boost =>
      s!"need 0 < shrink < 1 < boost, got shrink={write shrink}, boost={write boost}"

structure DampingRange (α : Type) where
  initial : α
  max : α

variable [Scalar α]

def DampingRange.adjustment : DampingRange α := ⟨100.0, 1e6⟩

def DampingRange.steering : DampingRange α := ⟨1e-3, 1e3⟩

namespace Config

def defaultTolerance : α := 1e-12
def defaultBoost : α := 2.0
def defaultShrink : α := 0.1

/-- Checks the settings one by one; the first that is out of range is the error. -/
def make (paramCount pointCount : Int) (tolerance : α) (damping : DampingRange α)
    (boost shrink : α) : Except (ConfigError α) (Config α) := do
  unless paramCount ≥ 1 do throw (.paramCount paramCount)
  unless pointCount ≥ 1 do throw (.pointCount pointCount)
  unless Scalar.lt 0 tolerance do throw (.tolerance tolerance)
  unless Scalar.lt 0 damping.initial do throw (.initialDamping damping.initial)
  unless Scalar.lt 0 damping.max && Scalar.isFinite damping.max do
    throw (.maxDamping damping.max)
  unless Scalar.lt 0 shrink && Scalar.lt shrink 1 && Scalar.lt 1 boost do
    throw (.factors shrink boost)
  return {
    tolerance, boost, shrink
    paramCount := paramCount.toNat
    pointCount := pointCount.toNat
    initialDamping := damping.initial
    maxDamping := damping.max }

def usual (paramCount pointCount : Int) (tolerance : α) (damping : DampingRange α) :
    Except (ConfigError α) (Config α) :=
  make paramCount pointCount tolerance damping defaultBoost defaultShrink

end Config

/-- What one outer iteration hands to the next. The sum of squares is the one at
the parameters held, none before the first evaluation. -/
structure State (α : Type) where
  damping : α
  outer : Nat
  inner : Nat
  sos : Option α

def State.initial (config : Config α) : State α where
  damping := config.initialDamping
  outer := 0
  inner := 0
  sos := none

end OpticTune.Solver
