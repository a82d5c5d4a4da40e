import OpticTune.Options
import OpticTune.Options.Value

namespace OpticTune

/-! Options taken from a document.

A document holds a mapping, and the options are the entries of its section
`auto`. Options that are absent have their usual values, and those that are
given are converted before any of them is brought into its range.
-/

namespace Options

structure NumberReader (α : Type) where
  real : List Text.CodePoint → Except ReadingError α
  whole : List Text.CodePoint → Except ReadingError Int

variable {α σ : Type} [Scalar α]

/-- A value that counts as an empty mapping. -/
def Value.isEmpty : Value α → Bool
  | .null => true
  | .boolean flag => !flag
  | .whole number => number == 0
  | .real number => Scalar.isZero number
  | .text content => content.isEmpty
  | .day _ => false
  | .moment _ => false
  | .list items => items.isEmpty
  | .mapping entries => entries.isEmpty
  | .foreign value => value.isEmpty

/-- The entries of a mapping; none of them if it is any empty value. -/
def Value.entries? (value : Value α) : Option (List (Value α × Value α)) :=
  if value.isEmpty then some []
  else
    match value with
    | .mapping entries => some entries
    | _ => none

def find? (name : String) (entries : List (Value α × Value α)) : Option (Value α) :=
  (entries.find? fun (key, _) =>
    match key with
    | .text content => content == Text.codePoints name
    | _ => false).map Prod.snd

def Value.toReal (reader : NumberReader α) : Value α → Except ReadingError α
  | .boolean flag => .ok (if flag then 1 else 0)
  | .whole number =>
      let converted : α := (number : α)
      if Scalar.isFinite converted then .ok converted else .error .tooLarge
  | .real number => .ok number
  | .text content => reader.real content
  | .foreign value => value.real
  | _ => .error .notANumber

def Value.toWhole (reader : NumberReader α) : Value α → Except ReadingError Int
  | .boolean flag => .ok (if flag then 1 else 0)
  | .whole number => .ok number
  | .real number =>
      if Scalar.isNaN number then .error .wholeOfNaN
      else if Scalar.isFinite number then .ok (Scalar.truncate number)
      else .error .tooLarge
  | .text content => reader.whole content
  | .foreign value => value.whole
  | _ => .error .notANumber

def ofEntries (reader : NumberReader α) (entries : List (Value α × Value α)) :
    ExceptT ReadingError (Act α σ) (Options α) := do
  let step ← (find? "step" entries).mapM fun value => liftM (value.toReal reader)
  let maxIterations ← (find? "max_iterations" entries).mapM fun value =>
    liftM (value.toWhole reader)
  let tolerance ← (find? "tolerance" entries).mapM fun value => liftM (value.toReal reader)
  ExceptT.lift (usual step maxIterations tolerance)

/-- The options of a document; `path` is where it was found. -/
def ofDocument (reader : NumberReader α) (path : String) (document : Value α) :
    ExceptT ReadingError (Act α σ) (Options α) := do
  match document.entries? with
  | none => throw .notAMapping
  | some entries =>
    match ((find? "auto" entries).getD .null).entries? with
    | none => throw .sectionNotAMapping
    | some options =>
      Act.note (.optionsLoaded path options)
      ofEntries reader options

end Options

end OpticTune
