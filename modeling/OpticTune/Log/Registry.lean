import OpticTune.Log.Level
import OpticTune.Text.Case

namespace OpticTune.Log

/-! The loggers of the library.

All their names lie under one root, so that a single level silences them all.
The root gets its handler when it is configured first, and a logger that is
asked for before then configures it.
-/

def rootName : String := "opticfit"

/-- The root logger's state; no other logger has one of its own. -/
structure Registry where
  level : Level
  handlerCount : Nat
  configured : Bool
deriving Repr, DecidableEq

/-- What a name that should be a level's may belong to instead. -/
inductive NameError where
  /-- The table of the ways in which a line may be written. -/
  | styles
  /-- The usual way, which is a text. -/
  | style
deriving Repr, DecidableEq

def NameError.ofName? (name : String) : Option NameError :=
  [("_STYLES", styles), ("BASIC_FORMAT", style)].lookup name

namespace Registry

def fresh : Registry := { level := .info, handlerCount := 0, configured := false }

/-- The level that holds where a logger and those above it are undecided. -/
def outermost : Level := .warning

def defaultLevel : Level := .info

def effective (registry : Registry) : Level :=
  if registry.level = .unset then outermost else registry.level

def withLevel (registry : Registry) (level : Level) : Registry where
  level := level
  handlerCount := if registry.handlerCount = 0 then 1 else registry.handlerCount
  configured := true

/-- Sets the root's level by its name in any case; a name that nothing has stands
for the default. -/
def configure (registry : Registry) (name : String) : Except NameError Registry :=
  let name := Text.inCapitals name
  match NameError.ofName? name with
  | some error => .error error
  | none => .ok (registry.withLevel ((Level.ofName? name).getD defaultLevel))

/-- The full name of a logger: names outside the root are put under it. -/
def fullName (name : String) : String :=
  if name.isEmpty || name == rootName then rootName
  else
    let name := if name == "__main__" then "main" else name
    if (rootName ++ ".").toList.isPrefixOf name.toList then name else rootName ++ "." ++ name

def asked (registry : Registry) : Registry :=
  if registry.configured then registry else registry.withLevel defaultLevel

end Registry

end OpticTune.Log
