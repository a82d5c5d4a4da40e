import OpticTune.Decimal.Nearest
import OpticTune.Text.Blank
import OpticTune.Text.Digit

namespace OpticTune.Decimal

/-! Numbers read from text.

Blanks around a number are ignored, digits of all scripts count, and a single
underscore may stand between two digits.
-/

inductive WholeError where
  | malformed
  | tooLong (digits : Nat)
deriving Repr, DecidableEq

/-- The sign in front, minus being true, and what follows it. -/
def takeSign : List Char → Bool × List Char
  | '-' :: rest => (true, rest)
  | '+' :: rest => (false, rest)
  | text => (false, text)

/-- The digits at the start of a text, and what follows them. After a digit an
underscore is taken along if another digit follows it. -/
def takeDigitsAfter (digitBefore : Bool) : List Char → List Nat × List Char
  | [] => ([], [])
  | c :: rest =>
      match Text.digitValue? c with
      | some digit =>
          let (digits, rest) := takeDigitsAfter true rest
          (digit :: digits, rest)
      | none =>
          if digitBefore && c == '_' then
            match takeDigitsAfter false rest with
            | ([], _) => ([], c :: rest)
            | found => found
          else ([], c :: rest)

def takeDigits (text : List Char) : List Nat × List Char :=
  takeDigitsAfter false text

def ofDigits (digits : List Nat) : Nat :=
  digits.foldl (fun number digit => 10 * number + digit) 0

def mostDigits : Nat := 4300

def takeRun (text : List Char) : List Char × List Char :=
  text.span fun c => (Text.digitValue? c).isSome || c == '_'

/-- The number of digits is looked at before what follows them. -/
def readWhole (text : String) : Except WholeError Int := do
  let (negative, unsigned) := takeSign (Text.trimBlanks text.toList)
  let (run, rest) := takeRun unsigned
  match takeDigits run with
  | (digits, []) =>
      if digits.isEmpty then throw .malformed
      if digits.length > mostDigits then throw (.tooLong digits.length)
      unless rest.isEmpty do throw .malformed
      let number : Int := ofDigits digits
      return if negative then -number else number
  | _ => throw .malformed

/-- The exponent part of a number: nothing, or a letter E and a whole number. -/
def readExponent? : List Char → Option Int
  | [] => some 0
  | c :: rest =>
      if c = 'e' ∨ c = 'E' then
        let (negative, unsigned) := takeSign rest
        match takeDigits unsigned with
        | ([], _) => none
        | (digits, []) => some (if negative then -(ofDigits digits : Int) else ofDigits digits)
        | _ => none
      else none

/-- Digits with a point among them or at one end, or with none. -/
def readDecimal? (negative : Bool) (unsigned : List Char) : Option Float :=
  let (whole, rest) := takeDigits unsigned
  let (fraction, rest) :=
    match rest with
    | '.' :: rest => takeDigits rest
    | rest => ([], rest)
  if whole.isEmpty && fraction.isEmpty then none
  else
    (readExponent? rest).map fun exponent =>
      toFloat negative (ofDigits (whole ++ fraction)) (exponent - fraction.length)

def isWord (words : List String) (text : List Char) : Bool :=
  words.contains (String.ofList (text.map Char.toLower))

def readReal? (text : String) : Option Float :=
  let (negative, unsigned) := takeSign (Text.trimBlanks text.toList)
  if isWord ["inf", "infinity"] unsigned then
    some (nearest negative ⟨Nat.pow 2 1024, 1⟩)
  else if isWord ["nan"] unsigned then
    some (0.0 / 0.0)
  else readDecimal? negative unsigned

end OpticTune.Decimal
