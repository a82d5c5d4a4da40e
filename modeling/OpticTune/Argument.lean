import OpticTune.Word

namespace OpticTune

/-! Settings given by name, of kinds not known beforehand.

Names come first: every one that is wanted has to be given, and every one that
is given has to exist. Then the kinds are looked at. A truth value passes as a
whole number, but a whole number does not pass as a real one.
-/

inductive Argument (α : Type) where
  | nothing
  | flag (value : Bool)
  | whole (number : Int)
  | real (number : α)
  | text (content : String)
  | tuple (items : List (Argument α))
  | list (items : List (Argument α))

inductive ArgumentError where
  | unknown (name : String)
  | missing (name : String)
  | kind
deriving Repr, DecidableEq

namespace Argument

variable {α : Type}

def toWhole : Argument α → Except ArgumentError Int
  | whole number => .ok number
  | flag value => .ok (if value then 1 else 0)
  | _ => .error .kind

def toReal : Argument α → Except ArgumentError α
  | real number => .ok number
  | _ => .error .kind

def toPair : Argument α → Except ArgumentError (α × α)
  | tuple [real first, real second] => .ok (first, second)
  | _ => .error .kind

/-- What keeps an argument from entering a computation, whatever its kind. -/
inductive Obstacle where
  | text
  | tooLarge
deriving Repr, DecidableEq

mutual

def obstacle? : Argument α → Option Obstacle
  | text _ => some .text
  | whole number => if Word.holds number then none else some .tooLarge
  | tuple items => firstObstacle? items
  | list items => firstObstacle? items
  | _ => none

def firstObstacle? : List (Argument α) → Option Obstacle
  | [] => none
  | item :: rest => item.obstacle?.or (firstObstacle? rest)

end

end Argument

structure Arguments (α : Type) where
  entries : List (String × Argument α)

namespace Arguments

variable {α β : Type}

def names (arguments : Arguments α) : List String :=
  arguments.entries.map Prod.fst

def checkNames (arguments : Arguments α) (wanted optional : List String) :
    Except ArgumentError Unit := do
  let known := wanted ++ optional
  if let some name := arguments.names.find? fun name => !known.contains name then
    throw (.unknown name)
  if let some name := wanted.find? fun name => !arguments.names.contains name then
    throw (.missing name)

def find? (arguments : Arguments α) (name : String) : Option (Argument α) :=
  arguments.entries.lookup name

def optional (arguments : Arguments α) (name : String)
    (convert : Argument α → Except ArgumentError β) : Except ArgumentError (Option β) :=
  (arguments.find? name).mapM convert

def wanted (arguments : Arguments α) (name : String)
    (convert : Argument α → Except ArgumentError β) : Except ArgumentError β :=
  match arguments.find? name with
  | some argument => convert argument
  | none => .error (.missing name)

end Arguments

end OpticTune
