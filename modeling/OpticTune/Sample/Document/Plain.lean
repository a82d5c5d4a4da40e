import OpticTune.Decimal.Reading
import OpticTune.Options.Value
import OpticTune.Sample.Document.Timestamp
import OpticTune.Sample.Document.Token

namespace OpticTune.Sample.Document

/-! The values of the plain texts of an options document.

A plain text is read as nothing, a truth value, a whole number, a real number, a
day or a moment if it is written as one; every other text stays a text. Real
numbers have a point, and an exponent has a sign. Numbers may be written in base
sixty, with colons between their digits. Underscores between the digits of a
number are ignored.
-/

open Options (Value)

namespace Plain

def nulls : List String := ["", "~", "null", "Null", "NULL"]

def truths : List String := ["yes", "Yes", "YES", "true", "True", "TRUE", "on", "On", "ON"]

def falsehoods : List String := ["no", "No", "NO", "false", "False", "FALSE", "off", "Off", "OFF"]

def infinities : List String := [".inf", ".Inf", ".INF"]

def notNumbers : List String := [".nan", ".NaN", ".NAN"]

/-- The key whose value is merged into the mapping it stands in. -/
def mergeMark : String := "<<"

/-- The key that stands for itself alone. -/
def valueMark : String := "="

def isDigitOrMark (c : Char) : Bool :=
  isDigit c || c == '_'

def digitsOf (text : List Char) : List Nat :=
  (text.filter isDigit).map digitValue

/-- The number with digits of a base; none if there are no digits. -/
def inBase (base : Nat) (text : List Char) : Option Nat :=
  let digits := (text.filter (· != '_')).filterMap Scanner.hexValue?
  if digits.isEmpty then none else some (digits.foldl (fun number digit => base * number + digit) 0)

def splitAtColons (text : List Char) : List (List Char) :=
  text.splitOn ':'

def isSixtieth (text : List Char) : Bool :=
  match text with
  | [c] => isDigit c
  | [tens, c] => decide ('0' ≤ tens) && decide (tens ≤ '5') && isDigit c
  | _ => false

def inSixties (digits : List Nat) : Nat :=
  digits.foldl (fun number digit => 60 * number + digit) 0

def inTen (parts : List (List Char)) : Option Nat :=
  let digits := parts.map digitsOf
  if digits.any fun part => decide (part.length > Decimal.mostDigits) then none
  else some (inSixties (digits.map Decimal.ofDigits))

/-- The value of a text written as a whole number; within, none if the number of
its digits is out of range. -/
def whole? (unsigned : List Char) : Option (Option Nat) :=
  match unsigned with
  | '0' :: 'b' :: rest =>
      if !rest.isEmpty && rest.all fun c => c == '0' || c == '1' || c == '_' then
        some (inBase 2 rest)
      else none
  | '0' :: 'x' :: rest =>
      if !rest.isEmpty && rest.all fun c => (Scanner.hexValue? c).isSome || c == '_' then
        some (inBase 16 rest)
      else none
  | '0' :: rest =>
      if rest.all fun c => decide ('0' ≤ c) && decide (c ≤ '7') || c == '_' then
        some (inBase 8 ('0' :: rest))
      else none
  | first :: _ =>
      match splitAtColons unsigned with
      | leading :: sixtieths =>
          if isDigit first && leading.all isDigitOrMark && sixtieths.all isSixtieth then
            some (inTen (leading :: sixtieths))
          else none
      | [] => none
  | [] => none

def exponent? (text : List Char) : Option Int :=
  match text with
  | [] => some 0
  | letter :: sign :: digits =>
      if (letter == 'e' || letter == 'E') && (sign == '+' || sign == '-')
          && !digits.isEmpty && digits.all isDigit then
        let magnitude : Int := Decimal.ofDigits (digitsOf digits)
        some (if sign == '-' then -magnitude else magnitude)
      else none
  | _ => none

def point? (text : List Char) : Option (List Char × List Char × List Char) :=
  let (whole, rest) := text.span isDigitOrMark
  match rest with
  | '.' :: rest =>
      let (fraction, rest) := rest.span isDigitOrMark
      some (whole, fraction, rest)
  | _ => none

/-- The sum of places of base sixty, last place first. Every place is scaled by
its power of sixty and added in machine arithmetic. -/
def sixtiesSum (places : List Float) : Except ParseError Float :=
  places.zipIdx.foldlM
    (fun total (place, power) =>
      let scale := Decimal.ofInt (Nat.pow 60 power)
      if scale.isFinite then .ok (total + place * scale) else .error .tooLarge)
    0.0

def sixties? (unsigned : List Char) : Option (Except ParseError Float) :=
  match unsigned.span (· != '.') with
  | (whole, '.' :: fraction) =>
      match splitAtColons whole with
      | leading :: sixtieth :: others =>
          if leading.head?.any isDigit && leading.all isDigitOrMark
              && (sixtieth :: others).all isSixtieth && fraction.all isDigitOrMark then
            let place (whole fraction : List Char) :=
              let digits := digitsOf (whole ++ fraction)
              Decimal.toFloat false (Decimal.ofDigits digits)
                (-((digitsOf fraction).length : Int))
            match (leading :: sixtieth :: others).reverse with
            | last :: before =>
                some (sixtiesSum (place last fraction :: before.map fun part => place part []))
            | [] => none
          else none
      | _ => none
  | _ => none

/-- A real number written with a point, its sign taken off. A point without digits
in front takes no sign. -/
def real? (signed : Bool) (unsigned : List Char) : Option (Except ParseError Float) :=
  match point? unsigned with
  | some (whole, fraction, rest) =>
      let leads := if whole.isEmpty then !signed && fraction.head?.any isDigit
        else whole.head?.any isDigit
      if leads then
        (exponent? rest).map fun exponent =>
          let fraction := digitsOf fraction
          .ok (Decimal.toFloat false (Decimal.ofDigits (digitsOf whole ++ fraction))
            (exponent - fraction.length))
      else none
  | none => sixties? unsigned

def number? (text : List Char) : Option (Except ParseError (Value Float)) :=
  let (negative, unsigned) := Decimal.takeSign text
  let signed := unsigned.length != text.length
  if infinities.contains (String.ofList unsigned) then
    some (.ok (.real (Decimal.nearest negative ⟨Nat.pow 2 1024, 1⟩)))
  else
    match real? signed unsigned with
    | some number => some (number.map fun number => .real (if negative then -number else number))
    | none =>
        (whole? unsigned).map fun
          | some number => .ok (.whole (if negative then -(number : Int) else number))
          | none => .error .digitCount

def value (text : List Char) : Except ParseError (Value Float) :=
  let word := String.ofList text
  if nulls.contains word then .ok .null
  else if truths.contains word then .ok (.boolean true)
  else if falsehoods.contains word then .ok (.boolean false)
  else if notNumbers.contains word then .ok (.real (0.0 / 0.0))
  else if word == mergeMark || word == valueMark then .error .malformed
  else
    match number? text, Timestamp.value? text with
    | some number, _ => number
    | none, some moment => moment
    | none, none => .ok (.text (Text.codePoints word))

end Plain

end OpticTune.Sample.Document
