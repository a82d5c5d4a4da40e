import OpticTune.Decimal.Reading
import OpticTune.Options.Reading
import OpticTune.Scalar.Double
import OpticTune.Text.Quoted

namespace OpticTune

/-! Options taken from the bytes of a file.

How a document is written is up to its parser, which has errors of its own.
-/

namespace Options

inductive FileError (ε : Type) where
  | missing
  | document (error : ε)
  | reading (path : String) (error : ReadingError)
deriving Repr, DecidableEq

/-- Messages show no more than this many characters of a text that is no whole
number. -/
def mostShown : Nat := 200

def ReadingError.message (path : String) : ReadingError → Option String
  | notAMapping => some (path ++ ": expected a mapping at top level")
  | sectionNotAMapping => some (path ++ ": 'auto' must be a mapping")
  | realText text => some ("could not convert string to float: " ++ Text.quoted text)
  | wholeText text =>
      let shown := (Text.quoted text).toList.take mostShown
      some ("invalid literal for int() with base 10: " ++ String.ofList shown)
  | tooManyDigits count =>
      some ("Exceeds the limit (" ++ toString Decimal.mostDigits ++
        " digits) for integer string conversion: value has " ++ toString count ++
        " digits; use sys.set_int_max_str_digits() to increase the limit")
  | wholeOfNaN => some "cannot convert float NaN to integer"
  | foreign complaint => some complaint
  | notANumber => none
  | tooLarge => none

def decimalReader : NumberReader Float where
  real text :=
    match Decimal.readReal? (Text.replaced text) with
    | some number => .ok number
    | none => .error (.realText text)
  whole text :=
    match Decimal.readWhole (Text.replaced text) with
    | .ok number => .ok number
    | .error .malformed => .error (.wholeText text)
    | .error (.tooLong digits) => .error (.tooManyDigits digits)

/-- The options of a file; no bytes if there is no such file. -/
def ofFile {σ ε : Type} (parse : ByteArray → Except ε (Value Float)) (path : String)
    (content : Option ByteArray) : ExceptT (FileError ε) (Act Float σ) (Options Float) := do
  match content with
  | none => throw .missing
  | some bytes =>
    match parse bytes with
    | .error error => throw (.document error)
    | .ok document => (ofDocument decimalReader path document).adapt (FileError.reading path)

end Options

end OpticTune
