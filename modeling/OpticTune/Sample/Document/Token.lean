import OpticTune.Sample.Document.Cursor
import OpticTune.Sample.Document.Source
import OpticTune.Text.CodePoint

namespace OpticTune.Sample.Document

/-! The tokens of an options document, those that indentation stands for
included.

A text that turns out to be the key of a mapping is known to be one only at the
colon after it, so the places where a key may have begun are remembered: at most
one at every depth of brackets, on one line, and no further back than 1024
characters. A token that may yet turn out to be a key is held back, and all that
follow it: what cannot be read among them is met where the first of them begins.
Where the text was cut short, a token that reaches its end cannot be read.
-/

open Text (CodePoint)

inductive Token where
  | documentStart
  | documentEnd
  | blockList
  | blockMapping
  | blockEnd
  | openList
  | closeList
  | openMapping
  | closeMapping
  | item
  | comma
  | key
  | value
  | plain (content : List Char)
  | quoted (content : List CodePoint)
  /-- What begins here cannot be read. -/
  | unreadable (error : ParseError)
deriving Repr, DecidableEq

/-- A place where a key may have begun; `token` is the number of its token. -/
structure PossibleKey where
  depth : Nat
  token : Nat
  required : Bool
  index : Nat
  line : Nat
  column : Nat

structure Scanner where
  cursor : Cursor
  tokens : Array Token
  /-- The column of the innermost block, and those of the blocks around it. -/
  indent : Int
  outerIndents : List Int
  depth : Nat
  keyAllowed : Bool
  possibleKeys : List PossibleKey

namespace Scanner

def start (text : List Char) : Scanner where
  cursor := Cursor.start text
  tokens := #[]
  indent := -1
  outerIndents := []
  depth := 0
  keyAllowed := true
  possibleKeys := []

def furthestKey : Nat := 1024

def emit (scanner : Scanner) (token : Token) : Scanner :=
  { scanner with tokens := scanner.tokens.push token }

def move (scanner : Scanner) (count : Nat) : Scanner :=
  { scanner with cursor := scanner.cursor.advance count }

def insertAt (scanner : Scanner) (place : Nat) (token : Token) : Scanner :=
  { scanner with
    tokens := scanner.tokens.extract 0 place ++ #[token] ++
      scanner.tokens.extract place scanner.tokens.size }

/-- Forgets the possible keys that lie too far back; none if one was required. -/
def dropStaleKeys (scanner : Scanner) : Option Scanner :=
  let (stale, fresh) := scanner.possibleKeys.partition fun key =>
    key.line != scanner.cursor.line || decide (scanner.cursor.index - key.index > furthestKey)
  if stale.any PossibleKey.required then none
  else some { scanner with possibleKeys := fresh }

/-- Forgets the possible key at this depth; none if it was required. -/
def dropKey (scanner : Scanner) : Option Scanner :=
  let (here, others) := scanner.possibleKeys.partition fun key => key.depth == scanner.depth
  if here.any PossibleKey.required then none
  else some { scanner with possibleKeys := others }

def saveKey (scanner : Scanner) : Option Scanner := do
  if scanner.keyAllowed then
    let scanner ← scanner.dropKey
    let cursor := scanner.cursor
    let key : PossibleKey := {
      depth := scanner.depth
      token := scanner.tokens.size
      required := scanner.depth == 0 && scanner.indent == cursor.column
      index := cursor.index
      line := cursor.line
      column := cursor.column }
    return { scanner with possibleKeys := key :: scanner.possibleKeys }
  else return scanner

/-- Closes the blocks that a smaller indentation ends. -/
def closeBlocks (scanner : Scanner) (column : Int) : List Int → Scanner
  | [] => scanner
  | outer :: others =>
      if scanner.indent > column then
        closeBlocks
          { scanner.emit .blockEnd with indent := outer, outerIndents := others } column others
      else scanner

def unwind (scanner : Scanner) (column : Int) : Scanner :=
  if scanner.depth = 0 then scanner.closeBlocks column scanner.outerIndents else scanner

/-- Opens a block at a column, if it lies further in than the innermost one. -/
def openBlock (scanner : Scanner) (column : Nat) : Option Scanner :=
  if scanner.indent < column then
    some { scanner with
      indent := column, outerIndents := scanner.indent :: scanner.outerIndents }
  else none

def isIndicator (c : Char) : Bool :=
  ['-', '?', ':', ',', '[', ']', '{', '}', '#', '&', '*', '!', '|', '>', '\'', '"', '%', '@',
   '\x60'].contains c

def startsPlain (scanner : Scanner) : Bool :=
  match scanner.cursor.peek 0 with
  | none => false
  | some c =>
      if isGap (some c) then false
      else if isIndicator c then
        !isGap (scanner.cursor.peek 1) &&
          (c == '-' || (scanner.depth == 0 && (c == '?' || c == ':')))
      else true

/-- Skips spaces, comments and line breaks. After a line break outside brackets a
key may begin. `fuel` bounds the number of lines. -/
def skipToToken (scanner : Scanner) : (fuel : Nat) → Scanner
  | 0 => scanner
  | fuel + 1 =>
      let cursor := scanner.cursor.skipWhile (· == ' ')
      let cursor :=
        if cursor.peek 0 == some '#' then cursor.skipWhile fun c => !isLineBreak c else cursor
      match cursor.peek 0 with
      | some c =>
          if isLineBreak c then
            skipToToken
              { scanner with
                cursor := cursor.next
                keyAllowed := scanner.keyAllowed || scanner.depth == 0 } fuel
          else { scanner with cursor }
      | none => { scanner with cursor }

/-! ### Plain text -/

def endsPlain (inBrackets : Bool) (c : Char) (next : Option Char) : Bool :=
  isGap (some c)
    || (c == ':' &&
      (isGap next || (inBrackets && next.any fun c => [',', '[', ']', '{', '}'].contains c)))
    || (inBrackets && [',', '?', '[', ']', '{', '}'].contains c)

def plainLength (inBrackets : Bool) : List Char → Nat
  | [] => 0
  | c :: rest => if endsPlain inBrackets c rest.head? then 0 else plainLength inBrackets rest + 1

/-- Line breaks with spaces among them, up to a line that starts or ends a
document; the latter as true. -/
def plainBreaks (cursor : Cursor) (breaks : List Char) :
    (fuel : Nat) → List Char × Cursor × Bool
  | 0 => (breaks, cursor, false)
  | fuel + 1 =>
      match cursor.peek 0 with
      | some c =>
          if c == ' ' then plainBreaks cursor.next breaks fuel
          else if isLineBreak c then
            let cursor := cursor.next
            let breaks := breaks ++ [foldedBreak c]
            if cursor.hasDocumentMarker then (breaks, cursor, true)
            else plainBreaks cursor breaks fuel
          else (breaks, cursor, false)
      | none => (breaks, cursor, false)

/-- The spaces and line breaks after a word of plain text, as they are kept if
another word follows. Nothing is kept before the start or end of a document. -/
def plainSpaces (scanner : Scanner) : List Char × Scanner :=
  let (spaces, cursor) := scanner.cursor.takeWhile (· == ' ')
  match cursor.peek 0 with
  | some c =>
      if isLineBreak c then
        let cursor := cursor.next
        let scanner := { scanner with cursor, keyAllowed := true }
        if cursor.hasDocumentMarker then ([], scanner)
        else
          let (breaks, cursor, atMarker) := plainBreaks cursor [] cursor.rest.length
          (if atMarker then [] else foldBreaks c breaks, { scanner with cursor })
      else (spaces, { scanner with cursor })
  | none => (spaces, { scanner with cursor })

/-- Plain text: words, with the spaces between them folded. -/
def plainText (scanner : Scanner) (content spaces : List Char) :
    (fuel : Nat) → List Char × Scanner
  | 0 => (content, scanner)
  | fuel + 1 =>
      let length := plainLength (scanner.depth != 0) scanner.cursor.rest
      if scanner.cursor.peek 0 == some '#' || length == 0 then (content, scanner)
      else
        let content := content ++ spaces ++ scanner.cursor.rest.take length
        let (spaces, scanner) := plainSpaces { scanner.move length with keyAllowed := false }
        if spaces.isEmpty || scanner.cursor.peek 0 == some '#'
            || (scanner.depth == 0 && decide ((scanner.cursor.column : Int) < scanner.indent + 1))
        then (content, scanner)
        else plainText scanner content spaces fuel

/-! ### Quoted text -/

def escaped? (c : Char) : Option Char :=
  [('0', '\x00'), ('a', '\x07'), ('b', '\x08'), ('t', '\t'), ('\t', '\t'), ('n', '\n'),
   ('v', '\x0b'), ('f', '\x0c'), ('r', '\r'), ('e', '\x1b'), (' ', ' '), ('"', '"'),
   ('\\', '\\'), ('/', '/'), ('N', '\u0085'), ('_', '\u00a0'), ('L', '\u2028'),
   ('P', '\u2029')].lookup c

def escapeLength? (c : Char) : Option Nat :=
  [('x', 2), ('u', 4), ('U', 8)].lookup c

def hexValue? (c : Char) : Option Nat :=
  if '0' ≤ c ∧ c ≤ '9' then some (c.toNat - '0'.toNat)
  else if 'a' ≤ c ∧ c ≤ 'f' then some (c.toNat - 'a'.toNat + 10)
  else if 'A' ≤ c ∧ c ≤ 'F' then some (c.toNat - 'A'.toNat + 10)
  else none

def hexNumber? (digits : List Char) : Option Nat :=
  digits.foldlM (fun number c => (hexValue? c).map fun digit => 16 * number + digit) 0

/-- The line breaks within a quoted text; none at the start or end of a document. -/
def quotedBreaks (cursor : Cursor) (breaks : List Char) :
    (fuel : Nat) → Option (List Char × Cursor)
  | 0 => some (breaks, cursor)
  | fuel + 1 =>
      if cursor.hasDocumentMarker then none
      else
        let cursor := cursor.skipWhile fun c => c == ' ' || c == '\t'
        match cursor.peek 0 with
        | some c =>
            if isLineBreak c then quotedBreaks cursor.next (breaks ++ [foldedBreak c]) fuel
            else some (breaks, cursor)
        | none => some (breaks, cursor)

/-- The largest number an escape is looked up by. -/
def largestEscape : Nat := Nat.pow 2 31 - 1

def named (number : Nat) : Except ParseError CodePoint :=
  match CodePoint.ofNat? number with
  | some point => .ok point
  | none => .error (if number > largestEscape then .tooLarge else .noSuchCodePoint)

def orMalformed {β : Type} : Option β → Except ParseError β
  | some value => .ok value
  | none => .error .malformed

def orUnfinished {β : Type} : Option β → Except ParseError β
  | some value => .ok value
  | none => .error .unfinished

def chars (text : List Char) : List CodePoint :=
  text.map .char

def escape (cursor : Cursor) : Except ParseError (List CodePoint × Cursor) := do
  let c ← orUnfinished (cursor.peek 0)
  if let some char := escaped? c then return ([.char char], cursor.next)
  if let some length := escapeLength? c then
    let digits := cursor.next.rest.take length
    let number ← orMalformed (hexNumber? digits)
    if digits.length < length then throw .unfinished
    return ([← named number], cursor.next.advance length)
  if isLineBreak c then
    let (breaks, cursor) ← orMalformed (quotedBreaks cursor.next [] cursor.rest.length)
    return (chars breaks, cursor)
  throw .malformed

def quotedText (quote : Char) (cursor : Cursor) (content : List CodePoint) :
    (fuel : Nat) → Except ParseError (List CodePoint × Cursor)
  | 0 => .error .unfinished
  | fuel + 1 =>
      match cursor.peek 0 with
      | none => .error .unfinished
      | some c =>
          if c == quote then
            if quote == '\'' && cursor.peek 1 == some '\'' then
              quotedText quote (cursor.advance 2) (content ++ chars ['\'']) fuel
            else .ok (content, cursor.next)
          else if quote == '"' && c == '\\' then do
            let (part, cursor) ← escape cursor.next
            quotedText quote cursor (content ++ part) fuel
          else if isGap (some c) then
            let (spaces, cursor) := cursor.takeWhile fun c => c == ' ' || c == '\t'
            match cursor.peek 0 with
            | none => .error .unfinished
            | some c =>
                if isLineBreak c then do
                  let (breaks, cursor) ←
                    orMalformed (quotedBreaks cursor.next [] cursor.rest.length)
                  quotedText quote cursor (content ++ chars (foldBreaks c breaks)) fuel
                else quotedText quote cursor (content ++ chars spaces) fuel
          else
            let (run, cursor) := cursor.takeWhile fun c =>
              c != quote && !(quote == '"' && c == '\\') && !isGap (some c)
            quotedText quote cursor (content ++ chars run) fuel

/-! ### Tokens -/

def openBracket (scanner : Scanner) (token : Token) : Option Scanner := do
  let scanner ← scanner.saveKey
  return { (scanner.move 1).emit token with depth := scanner.depth + 1, keyAllowed := true }

/-- A closing bracket must close one. -/
def closeBracket (scanner : Scanner) (token : Token) : Option Scanner := do
  let scanner ← scanner.dropKey
  if scanner.depth = 0 then none
  return { (scanner.move 1).emit token with depth := scanner.depth - 1, keyAllowed := false }

def fetchComma (scanner : Scanner) : Option Scanner := do
  let scanner ← { scanner with keyAllowed := true }.dropKey
  return (scanner.move 1).emit .comma

def enterBlock (scanner : Scanner) (token : Token) : Option Scanner :=
  if scanner.depth ≠ 0 then some scanner
  else if !scanner.keyAllowed then none
  else
    match scanner.openBlock scanner.cursor.column with
    | some opened => some (opened.emit token)
    | none => some scanner

def fetchItem (scanner : Scanner) : Option Scanner := do
  let scanner ← scanner.enterBlock .blockList
  let scanner ← { scanner with keyAllowed := true }.dropKey
  return (scanner.move 1).emit .item

def fetchKey (scanner : Scanner) : Option Scanner := do
  let scanner ← scanner.enterBlock .blockMapping
  let scanner ← { scanner with keyAllowed := scanner.depth == 0 }.dropKey
  return (scanner.move 1).emit .key

/-- A colon makes a key of the text that may be one, else the key is empty. -/
def fetchValue (scanner : Scanner) : Option Scanner := do
  match scanner.possibleKeys.find? fun key => key.depth == scanner.depth with
  | some key =>
      let others := scanner.possibleKeys.filter fun key => key.depth != scanner.depth
      let scanner := { scanner with possibleKeys := others }.insertAt key.token .key
      let scanner :=
        if scanner.depth ≠ 0 then scanner
        else
          match scanner.openBlock key.column with
          | some opened => opened.insertAt key.token .blockMapping
          | none => scanner
      return ({ scanner with keyAllowed := false }.move 1).emit .value
  | none =>
      let scanner ← scanner.enterBlock .blockMapping
      let scanner ← { scanner with keyAllowed := scanner.depth == 0 }.dropKey
      return (scanner.move 1).emit .value

def fetchQuoted (scanner : Scanner) (quote : Char) : Except ParseError Scanner := do
  let scanner ← orMalformed scanner.saveKey
  let cursor := scanner.cursor.next
  let (content, cursor) ← quotedText quote cursor [] (cursor.rest.length + 1)
  return { scanner.emit (.quoted content) with cursor, keyAllowed := false }

def fetchPlain (scanner : Scanner) : Option Scanner := do
  let scanner ← scanner.saveKey
  let (content, scanner) :=
    plainText { scanner with keyAllowed := false } [] [] (scanner.cursor.rest.length + 1)
  return scanner.emit (.plain content)

def fetchMarker (scanner : Scanner) (token : Token) : Option Scanner := do
  let scanner ← (scanner.unwind (-1)).dropKey
  return ({ scanner with keyAllowed := false }.move 3).emit token

/-- The next token, the cursor standing at its first character; it does not begin
a quoted text. -/
def fetchBare (scanner : Scanner) (c : Char) : Option Scanner :=
  let cursor := scanner.cursor
  let next := cursor.peek 1
  let inBrackets := scanner.depth != 0
  if cursor.column == 0 && cursor.hasMarker '-' then scanner.fetchMarker .documentStart
  else if cursor.column == 0 && cursor.hasMarker '.' then scanner.fetchMarker .documentEnd
  else if c == '[' then scanner.openBracket .openList
  else if c == '{' then scanner.openBracket .openMapping
  else if c == ']' then scanner.closeBracket .closeList
  else if c == '}' then scanner.closeBracket .closeMapping
  else if c == ',' then scanner.fetchComma
  else if c == '-' && isGap next then scanner.fetchItem
  else if c == '?' && (inBrackets || isGap next) then scanner.fetchKey
  else if c == ':' && (inBrackets || isGap next) then scanner.fetchValue
  else if scanner.startsPlain then scanner.fetchPlain
  else none

def fetch (scanner : Scanner) (c : Char) : Except ParseError Scanner :=
  if c == '\'' || c == '"' then scanner.fetchQuoted c else orMalformed (scanner.fetchBare c)

/-- The number of the first token that may yet turn out to be a key, or else of
the next one. -/
def firstHeldBack (scanner : Scanner) : Nat :=
  (scanner.possibleKeys.map PossibleKey.token).foldl min scanner.tokens.size

/-- A scanner at the end of its text has met what stopped the text there. -/
def unlessStopped (scanner : Scanner) (stop : Option ParseError) :
    Except ParseError Scanner :=
  match scanner.cursor.rest, stop with
  | [], some fault => .error fault
  | _, _ => .ok scanner

/-- One token further; without more, the scanner at the end of the text. -/
def step (scanner : Scanner) (stop : Option ParseError) :
    Except ParseError (Scanner × Bool) := do
  let scanner ← (scanner.skipToToken (scanner.cursor.rest.length + 1)).unlessStopped stop
  let scanner ← orMalformed scanner.dropStaleKeys
  let scanner := scanner.unwind scanner.cursor.column
  match scanner.cursor.peek 0 with
  | none => return (← orMalformed (scanner.unwind (-1)).dropKey, false)
  | some c => return (← (← scanner.fetch c).unlessStopped stop, true)

/-- The tokens before the first that may yet turn out to be a key, and a fault. -/
def endWith (scanner : Scanner) (fault : ParseError) : List Token :=
  scanner.tokens.toList.take scanner.firstHeldBack ++ [.unreadable fault]

/-- All tokens, up to the first that cannot be read. Every token but the last
takes at least one character, which `fuel` counts. -/
def scanAll (scanner : Scanner) (stop : Option ParseError) : (fuel : Nat) → List Token
  | 0 => scanner.tokens.toList
  | fuel + 1 =>
    match scanner.dropStaleKeys with
    | none => scanner.endWith .malformed
    | some scanner =>
      match scanner.step stop with
      | .ok (scanner, true) => scanner.scanAll stop fuel
      | .ok (scanner, false) => scanner.tokens.toList
      | .error .unfinished => scanner.endWith (stop.getD .unfinished)
      | .error fault => scanner.endWith fault

end Scanner

/-- The tokens of a text, a byte order mark in front ignored. -/
def tokensOf (source : Source) : List Token :=
  let text := source.text
  let scanner := Scanner.start text
  let scanner := if text.head? == some byteOrderMark then scanner.move 1 else scanner
  scanner.scanAll source.stop (text.length + 1)

end OpticTune.Sample.Document
