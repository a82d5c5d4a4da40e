import OpticTune.Decimal.Digits

namespace OpticTune.Decimal

/-! Doubles as text. -/

/-- Where a number is written out place by place, by the exponent of its first
digit, and whether a whole number then shows its point. -/
structure Layout where
  lowest : Int
  below : Int
  wholePoint : Bool

/-- The text that reads back: places are written out from 0.0001 to just below
10^16, and whole numbers show their point. -/
def Layout.readable : Layout := ⟨-4, 16, true⟩

def Layout.significant (count : Nat) : Layout := ⟨-4, count, false⟩

def exponentText (exponent : Int) : String :=
  let digits := Nat.toDigits 10 exponent.natAbs
  let padded := if digits.length < 2 then '0' :: digits else digits
  (if exponent < 0 then "e-" else "e+") ++ String.ofList padded

/-- One digit, the point and the others if there are any, and the exponent. -/
def exponential (digits : List Char) (exponent : Int) : String :=
  match digits with
  | [] => ""
  | [digit] => String.ofList [digit] ++ exponentText exponent
  | digit :: rest => String.ofList (digit :: '.' :: rest) ++ exponentText exponent

def positional (wholePoint : Bool) (digits : List Char) (exponent : Int) : String :=
  if exponent < 0 then
    "0." ++ String.ofList (List.replicate (-exponent - 1).toNat '0' ++ digits)
  else
    let places := exponent.toNat + 1
    let whole := digits.take places ++ List.replicate (places - digits.length) '0'
    match digits.drop places with
    | [] => String.ofList whole ++ (if wholePoint then ".0" else "")
    | fraction => String.ofList whole ++ "." ++ String.ofList fraction

def Layout.write (layout : Layout) (digits : Digits) : String :=
  if layout.lowest ≤ digits.exponent ∧ digits.exponent < layout.below then
    positional layout.wholePoint digits.text digits.exponent
  else exponential digits.text digits.exponent

/-- The text of a double whose magnitude is written by `write`. -/
def signed (nought : String) (write : (mantissa : Nat) → (exponent : Int) → String) (x : Float) :
    String :=
  match Binary.ofFloat x with
  | .notANumber => "nan"
  | .infinite negative => if negative then "-inf" else "inf"
  | .finite negative mantissa exponent =>
      let magnitude := if mantissa = 0 then nought else write mantissa exponent
      if negative then "-" ++ magnitude else magnitude

def valueOf (mantissa : Nat) (exponent : Int) : Quotient :=
  let (numerator, denominator) := ratio mantissa exponent
  { numerator, denominator }

def readable (x : Float) : String :=
  signed "0.0" (fun mantissa exponent => Layout.readable.write (shortest mantissa exponent)) x

def significant (count : Nat) (x : Float) : String :=
  signed "0" (fun mantissa exponent =>
    (Layout.significant count).write ((valueOf mantissa exponent).digits count)) x

def scientific (count : Nat) (x : Float) : String :=
  signed "0" (fun mantissa exponent =>
    let digits := (valueOf mantissa exponent).digits count
    exponential (Nat.toDigits 10 digits.coefficient) digits.exponent) x

end OpticTune.Decimal
