namespace OpticTune.Text

/-! Code points, of which some are no characters: the halves of surrogate pairs.

No file holds a half on its own, but an escape may name one, and a text keeps
what was named. Two halves that follow each other stay two.
-/

inductive CodePoint where
  | char (c : Char)
  | surrogate (number : Nat)
deriving Repr, DecidableEq

namespace CodePoint

/-- The code point of a number; none above the last one. -/
def ofNat? (number : Nat) : Option CodePoint :=
  if number.isValidChar then some (.char (Char.ofNat number))
  else if number < 0x110000 then some (.surrogate number)
  else none

/-- The character, or the one that replaces what is none. -/
def toChar : CodePoint → Char
  | .char c => c
  | .surrogate _ => '\uFFFD'

end CodePoint

def codePoints (text : String) : List CodePoint :=
  text.toList.map .char

def replaced (text : List CodePoint) : String :=
  String.ofList (text.map CodePoint.toChar)

theorem replaced_codePoints (text : String) : replaced (codePoints text) = text := by
  have chars : CodePoint.toChar ∘ CodePoint.char = id := rfl
  simp [replaced, codePoints, chars]

end OpticTune.Text
