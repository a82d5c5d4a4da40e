import OpticTune.Keyed
import OpticTune.Sample.Document.Node
import OpticTune.Sample.Document.Plain
import OpticTune.Sample.Document.Staged
import OpticTune.Scalar.Double

namespace OpticTune.Sample.Document

/-! A parser to read options files with.

It is one for plain documents: where a text has tags, anchors, directives or
block texts, it cannot be read. What is made of a document does not depend on
the parser.
-/

open Options (Value)

def wholeNumber? : Value Float → Option Int
  | .boolean flag => some (if flag then 1 else 0)
  | .whole number => some number
  | .real number =>
      let whole := Scalar.truncate number
      if Scalar.isFinite number && Decimal.ofInt whole == number then some whole else none
  | _ => none

/-- Whether two keys are one: numbers and truth values of exactly one value are,
and what is no number is one with every other. -/
def sameKey (key other : Value Float) : Bool :=
  match key, other with
  | .null, .null => true
  | .text content, .text other => content == other
  | .day day, .day other => day == other
  | .moment moment, .moment other => moment.same other
  | .real number, .real other => number == other || (number.isNaN && other.isNaN)
  | key, other =>
      match wholeNumber? key, wholeNumber? other with
      | some number, some other => number == other
      | _, _ => false

/-- An entry of a mapping. Only values without parts can be keys. -/
structure Entry where
  key : Except ParseError (Value Float)
  held : Staged (Value Float)

def Entry.staged (entry : Entry) : Staged (Value Float × Value Float) :=
  Staged.map₂ Prod.mk (.ofExcept .null entry.key) entry.held

def stagedAll : List Entry → Staged (List (Value Float × Value Float))
  | [] => .pure []
  | entry :: rest => Staged.map₂ List.cons entry.staged (stagedAll rest)

def stagedMapping : Except ParseError (List Entry) → Staged (Value Float)
  | .ok entries =>
      (stagedAll entries).map fun entries => .mapping (Keyed.ofList sameKey entries)
  | .error fault => .ofExcept .null (.error fault)

namespace Node

def isMark (mark : String) (content : List Char) : Bool :=
  content == mark.toList

def key : Node → Except ParseError (Value Float)
  | .plain content =>
      if isMark Plain.valueMark content then .ok (.text (content.map .char))
      else Plain.value content
  | .quoted content => .ok (.text content)
  | .list _ => .error .malformed
  | .mapping _ => .error .malformed

mutual

def staged : Node → Staged (Value Float)
  | .plain content => .ofExcept .null (Plain.value content)
  | .quoted content => .pure (.text content)
  | .list items => (stagedItems items).deeper.map .list
  | .mapping entries => (stagedMapping (flattened entries)).deeper

def stagedItems : List Node → Staged (List (Value Float))
  | [] => .pure []
  | item :: rest => Staged.map₂ List.cons item.staged (stagedItems rest)

/-- The entries of a mapping. Those of the mappings merged into it come first,
and give way to its own. -/
def flattened : List (Node × Node) → Except ParseError (List Entry)
  | entries => do
    let (merged, own) ← divided entries
    return merged ++ own

def divided : List (Node × Node) → Except ParseError (List Entry × List Entry)
  | [] => .ok ([], [])
  | (key, held) :: rest => do
    match key with
    | .plain content =>
      if isMark Plain.mergeMark content then
        let first ← mergedEntries held
        let (merged, own) ← divided rest
        return (first ++ merged, own)
    | _ => pure ()
    let (merged, own) ← divided rest
    return (merged, ⟨key.key, held.staged⟩ :: own)

/-- What a mapping, or a list of them, contributes to the mapping it is merged
into. Of a list the earlier mappings come later, so that they count. -/
def mergedEntries : Node → Except ParseError (List Entry)
  | .mapping entries => flattened entries
  | .list items => mergedItems items
  | _ => .error .malformed

def mergedItems : List Node → Except ParseError (List Entry)
  | [] => .ok []
  | .mapping entries :: rest => do
    let first ← flattened entries
    return (← mergedItems rest) ++ first
  | _ => .error .malformed

end

end Node

def parse (bytes : ByteArray) : Except ParseError (Value Float) := do
  let node ← Node.ofTokens (tokensOf (.ofBytes bytes))
  node.staged.result

end OpticTune.Sample.Document
