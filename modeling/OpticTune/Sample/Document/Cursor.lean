namespace OpticTune.Sample.Document

/-! A place in a text, with its line and column.

A line ends at a line feed, a next-line control, or one of the two Unicode
separators. Text is expected with its carriage returns already taken for line
feeds. The byte order mark takes no column.
-/

def isLineBreak (c : Char) : Bool :=
  c == '\n' || c == '\u0085' || c == '\u2028' || c == '\u2029'

/-- A space, a tab, a line break, or the end of the text. -/
def isGap (c : Option Char) : Bool :=
  match c with
  | some c => c == ' ' || c == '\t' || isLineBreak c
  | none => true

def byteOrderMark : Char := '\uFEFF'

structure Cursor where
  rest : List Char
  index : Nat
  line : Nat
  column : Nat

namespace Cursor

def start (text : List Char) : Cursor :=
  { rest := text, index := 0, line := 0, column := 0 }

def peek (cursor : Cursor) (ahead : Nat) : Option Char :=
  cursor.rest[ahead]?

/-- Moves over one character; at the end of the text stays there. -/
def next (cursor : Cursor) : Cursor :=
  match cursor.rest with
  | [] => cursor
  | c :: rest =>
      let index := cursor.index + 1
      if isLineBreak c then { rest, index, line := cursor.line + 1, column := 0 }
      else if c == byteOrderMark then { cursor with rest, index }
      else { cursor with rest, index, column := cursor.column + 1 }

def advance (cursor : Cursor) : Nat → Cursor
  | 0 => cursor
  | n + 1 => cursor.next.advance n

def takeWhile (cursor : Cursor) (condition : Char → Bool) : List Char × Cursor :=
  let taken := cursor.rest.takeWhile condition
  (taken, cursor.advance taken.length)

def skipWhile (cursor : Cursor) (condition : Char → Bool) : Cursor :=
  (cursor.takeWhile condition).2

/-- Whether three equal marks stand here, with a gap after them. -/
def hasMarker (cursor : Cursor) (mark : Char) : Bool :=
  cursor.rest.take 3 == [mark, mark, mark] && isGap (cursor.peek 3)

/-- Whether a document starts or ends here, given that a line does. -/
def hasDocumentMarker (cursor : Cursor) : Bool :=
  cursor.hasMarker '-' || cursor.hasMarker '.'

end Cursor

/-- A line break as it enters a text that is folded. -/
def foldedBreak (c : Char) : Char :=
  if c == '\u0085' then '\n' else c

/-- What a line break and the breaks after it leave behind: a lone break becomes
a space, and of several the first is dropped, unless it is a separator. -/
def foldBreaks (first : Char) (others : List Char) : List Char :=
  let first := foldedBreak first
  if first != '\n' then first :: others
  else if others.isEmpty then [' ']
  else others

end OpticTune.Sample.Document
