namespace OpticTune.Log

/-! How weighty a record has to be to be kept. -/

inductive Level where
  /-- Undecided; what surrounds the library decides. -/
  | unset
  | debug
  | info
  | warning
  | error
  | critical
deriving Repr, DecidableEq

namespace Level

def number : Level → Nat
  | .unset => 0
  | .debug => 10
  | .info => 20
  | .warning => 30
  | .error => 40
  | .critical => 50

def name : Level → String
  | .unset => "NOTSET"
  | .debug => "DEBUG"
  | .info => "INFO"
  | .warning => "WARNING"
  | .error => "ERROR"
  | .critical => "CRITICAL"

/-- Every level has its own name, and two of them have a second one. -/
def byName : List (String × Level) :=
  [("NOTSET", .unset), ("DEBUG", .debug), ("INFO", .info), ("WARN", .warning),
   ("WARNING", .warning), ("ERROR", .error), ("CRITICAL", .critical), ("FATAL", .critical)]

def ofName? (name : String) : Option Level :=
  byName.lookup name

theorem ofName_name (level : Level) : ofName? level.name = some level := by
  cases level <;> decide

end Level

end OpticTune.Log
