import OpticTune.Calendar
import OpticTune.Text.CodePoint

namespace OpticTune.Options

/-! What an options document holds: nested values over some kind of reals. -/

/-- Why no options can be made of a document. -/
inductive ReadingError where
  | notAMapping
  | sectionNotAMapping
  /-- Where a number is wanted, neither one nor a text. -/
  | notANumber
  | realText (text : List Text.CodePoint)
  | wholeText (text : List Text.CodePoint)
  | tooManyDigits (count : Nat)
  | wholeOfNaN
  | tooLarge
  /-- A value of a foreign kind that says itself why it is no number. -/
  | foreign (complaint : String)
deriving Repr, DecidableEq

/-- A value of a kind not told apart here, such as a set or a text of bytes: all
that options can ask of it. -/
structure Foreign (α : Type) where
  isEmpty : Bool
  real : Except ReadingError α
  whole : Except ReadingError Int
  /-- How it is shown; nothing if it cannot be. -/
  shown : Option String

inductive Value (α : Type) where
  | null
  | boolean (flag : Bool)
  | whole (number : Int)
  | real (number : α)
  | text (content : List Text.CodePoint)
  | day (day : Day)
  | moment (moment : Moment)
  | list (items : List (Value α))
  /-- The entries in the order of their keys' first appearance. -/
  | mapping (entries : List (Value α × Value α))
  | foreign (value : Foreign α)

inductive Quantity (α : Type) where
  | count (number : Int)
  | real (number : α)

end OpticTune.Options
