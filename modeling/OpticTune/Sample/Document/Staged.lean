import OpticTune.Sample.Document.ParseError

namespace OpticTune.Sample.Document

/-! Values built from the outside in.

The parts of a nested value are built level by level, those of one level in
their order. A fault on an outer level therefore counts before every fault
further in, wherever in the text they stand.
-/

/-- A value with the first fault, if any, of every level, the outermost first.
The value has a meaning only where there are no faults. -/
structure Staged (β : Type) where
  faults : List (Option ParseError)
  value : β

namespace Staged

variable {β γ δ : Type}

def pure (value : β) : Staged β :=
  { faults := [], value }

/-- Something built at once; `spare` takes the place of what is not there. -/
def ofExcept (spare : β) : Except ParseError β → Staged β
  | .ok value => pure value
  | .error fault => { faults := [some fault], value := spare }

def map (f : β → γ) (staged : Staged β) : Staged γ :=
  { faults := staged.faults, value := f staged.value }

/-- One level further in. -/
def deeper (staged : Staged β) : Staged β :=
  { staged with faults := none :: staged.faults }

/-- On every level the earlier fault of two. -/
def earlier : (first second : List (Option ParseError)) → List (Option ParseError)
  | fault :: first, other :: second => fault.or other :: earlier first second
  | [], second => second
  | first, [] => first

def map₂ (f : β → γ → δ) (first : Staged β) (second : Staged γ) : Staged δ :=
  { faults := earlier first.faults second.faults, value := f first.value second.value }

def result (staged : Staged β) : Except ParseError β :=
  match staged.faults.findSome? id with
  | some fault => .error fault
  | none => .ok staged.value

end Staged

end OpticTune.Sample.Document
