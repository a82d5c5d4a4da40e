import OpticTune.Calendar
import OpticTune.Options.Value
import OpticTune.Sample.Document.ParseError

namespace OpticTune.Sample.Document

/-! Days and moments as plain texts give them.

A day is written with four, two and two digits. In front of a time, month and
day may have one digit; a time has seconds, perhaps with a fraction, and may be
followed by the letter Z or by hours and minutes ahead of universal time.
-/

def isDigit (c : Char) : Bool :=
  decide ('0' ≤ c) && decide (c ≤ '9')

def digitValue (c : Char) : Nat :=
  c.toNat - '0'.toNat

namespace Timestamp

/-- A number of `least` to `most` digits, and what follows them. -/
def number? (least most : Nat) (text : List Char) : Option (Nat × List Char) :=
  let (digits, rest) := text.span isDigit
  if least ≤ digits.length ∧ digits.length ≤ most then
    some (digits.foldl (fun number c => 10 * number + digitValue c) 0, rest)
  else none

def mark? (mark : Char) : List Char → Option (List Char)
  | c :: rest => if c = mark then some rest else none
  | [] => none

/-- A day whose month and day have `least` to two digits, and what follows it. -/
def day? (least : Nat) (text : List Char) : Option (Day × List Char) := do
  let (year, rest) ← number? 4 4 text
  let (month, rest) ← number? least 2 (← mark? '-' rest)
  let (day, rest) ← number? least 2 (← mark? '-' rest)
  return (⟨year, month, day⟩, rest)

def isSpace (c : Char) : Bool :=
  c == ' ' || c == '\t'

/-- What stands between a day and its time: a letter T or spaces. -/
def afterDay? : List Char → Option (List Char)
  | [] => none
  | c :: rest =>
      if c == 'T' || c == 't' then some rest
      else if isSpace c then some (rest.dropWhile isSpace)
      else none

/-- The microseconds of a fraction, further digits cut off. -/
def microseconds (fraction : List Char) : Nat :=
  (fraction ++ List.replicate 6 '0').take 6 |>.foldl (fun number c => 10 * number + digitValue c) 0

/-- The minutes ahead of universal time after a sign, at the end of a text. -/
def minutes? (text : List Char) : Option Nat := do
  let (hours, rest) ← number? 1 2 text
  if rest.isEmpty then return 60 * hours
  let (minutes, rest) ← number? 2 2 (← mark? ':' rest)
  if rest.isEmpty then return 60 * hours + minutes
  none

def ahead? (text : List Char) : Option (Option Int) :=
  match text, text.dropWhile isSpace with
  | [], _ => some none
  | _, ['Z'] => some (some 0)
  | _, '+' :: rest => (minutes? rest).map fun minutes => some (minutes : Int)
  | _, '-' :: rest => (minutes? rest).map fun minutes => some (-(minutes : Int))
  | _, _ => none

def moment? (text : List Char) : Option Moment := do
  let (day, rest) ← day? 1 text
  let (hour, rest) ← number? 1 2 (← afterDay? rest)
  let (minute, rest) ← number? 2 2 (← mark? ':' rest)
  let (second, rest) ← number? 2 2 (← mark? ':' rest)
  let (fraction, rest) :=
    match rest with
    | '.' :: rest => rest.span isDigit
    | rest => ([], rest)
  let ahead ← ahead? rest
  return { day, hour, minute, second, microsecond := microseconds fraction, ahead }

def value? {α : Type} (text : List Char) : Option (Except ParseError (Options.Value α)) :=
  match day? 2 text, moment? text with
  | some (day, []), _ => some (if day.isValid then .ok (.day day) else .error .noSuchMoment)
  | _, some moment =>
      some (if moment.isValid then .ok (.moment moment) else .error .noSuchMoment)
  | _, none => none

end Timestamp

end OpticTune.Sample.Document
