import OpticTune.Argument
import OpticTune.Solver.Config

namespace OpticTune.Solver

/-! Configurations whose settings are given by name. -/

variable {α : Type} [Scalar α]

structure Settings (α : Type) where
  paramCount : Int
  pointCount : Int
  tolerance : α
  damping : DampingRange α
  boost : α
  shrink : α

namespace Settings

/-- The settings not given have their usual values. -/
def ofArguments (arguments : Arguments α) : Except ArgumentError (Settings α) := do
  arguments.checkNames ["n_params", "n_points"] ["tolerance", "damping", "boost", "shrink"]
  let paramCount ← arguments.wanted "n_params" Argument.toWhole
  let pointCount ← arguments.wanted "n_points" Argument.toWhole
  let tolerance ← arguments.optional "tolerance" Argument.toReal
  let damping ← arguments.optional "damping" Argument.toPair
  let boost ← arguments.optional "boost" Argument.toReal
  let shrink ← arguments.optional "shrink" Argument.toReal
  return {
    paramCount, pointCount
    tolerance := tolerance.getD Config.defaultTolerance
    damping := (damping.map fun (initial, max) => ⟨initial, max⟩).getD .adjustment
    boost := boost.getD Config.defaultBoost
    shrink := shrink.getD Config.defaultShrink }

def config (settings : Settings α) : Except (ConfigError α) (Config α) :=
  Config.make settings.paramCount settings.pointCount settings.tolerance settings.damping
    settings.boost settings.shrink

end Settings

end OpticTune.Solver
