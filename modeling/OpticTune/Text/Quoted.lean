import OpticTune.Text.CodePoint
import OpticTune.Text.Printable

namespace OpticTune.Text

/-! Texts in quotes, as messages show them.

Single quotes are used, unless the text has one and no double quote. The quote
in use and backslashes are escaped, and so is every code point that would not be
shown as it is.
-/

def hexDigits (width n : Nat) : List Char :=
  let digits := Nat.toDigits 16 n
  List.replicate (width - digits.length) '0' ++ digits

def escapeNumber (n : Nat) : List Char :=
  if n < 0x100 then ['\\', 'x'] ++ hexDigits 2 n
  else if n < 0x10000 then ['\\', 'u'] ++ hexDigits 4 n
  else ['\\', 'U'] ++ hexDigits 8 n

def escape (quote : Char) : CodePoint → List Char
  | .surrogate number => escapeNumber number
  | .char c =>
      if c == quote || c == '\\' then ['\\', c]
      else if c == '\t' then ['\\', 't']
      else if c == '\n' then ['\\', 'n']
      else if c == '\r' then ['\\', 'r']
      else if isPrintable c then [c]
      else escapeNumber c.toNat

def quoted (text : List CodePoint) : String :=
  let quote := if text.contains (.char '\'') && !text.contains (.char '"') then '"' else '\''
  String.ofList (quote :: text.flatMap (escape quote) ++ [quote])

end OpticTune.Text
