import OpticTune.Sample.Document.ParseError

namespace OpticTune.Sample.Document

/-! How the text of a file comes in.

Bytes are decoded piece by piece, and the characters are handed on block by
block; before anything of a block is read, the whole block is looked through. A
fault further on is therefore met only when its piece or its block is wanted,
and whatever else is wrong before that counts first.
-/

/-- A text, and the fault that keeps what follows it from being read. -/
structure Source where
  text : List Char
  stop : Option ParseError

def isAllowed (c : Char) : Bool :=
  let code := c.toNat
  c == '\t' || c == '\n' || c == '\u0085'
    || (decide (0x20 ≤ code) && decide (code ≤ 0x7e))
    || (decide (0xa0 ≤ code) && decide (code ≤ 0xfffd))
    || decide (0x10000 ≤ code)

/-- A carriage return ends a line, alone or with the line feed after it. -/
def unifyLineEnds : List Char → List Char
  | [] => []
  | '\r' :: '\n' :: rest => '\n' :: unifyLineEnds rest
  | '\r' :: rest => '\n' :: unifyLineEnds rest
  | c :: rest => c :: unifyLineEnds rest

/-! ### Bytes -/

/-- The ranges of the bytes that complete a character, the first one given; none
if no character begins with it. -/
def completion? (first : UInt8) : Option (List (UInt8 × UInt8)) :=
  let any : UInt8 × UInt8 := (0x80, 0xbf)
  if first < 0x80 then some []
  else if first < 0xc2 then none
  else if first < 0xe0 then some [any]
  else if first == 0xe0 then some [(0xa0, 0xbf), any]
  else if first == 0xed then some [(0x80, 0x9f), any]
  else if first < 0xf0 then some [any, any]
  else if first == 0xf0 then some [(0x90, 0xbf), any, any]
  else if first < 0xf4 then some [any, any, any]
  else if first == 0xf4 then some [(0x80, 0x8f), any, any]
  else none

/-- The number of bytes before the first one out of place, some being awaited. -/
def soundLength (awaited : List (UInt8 × UInt8)) : List UInt8 → Nat
  | [] => 0
  | byte :: rest =>
    match awaited with
    | (low, high) :: awaited =>
        if low ≤ byte && byte ≤ high then soundLength awaited rest + 1 else 0
    | [] =>
      match completion? byte with
      | some awaited => soundLength awaited rest + 1
      | none => 0

/-- The characters of sound bytes, an unfinished one at their end left out. -/
def soundText (bytes : ByteArray) : List Char :=
  let text? := (List.range 4).findSome? fun left =>
    String.fromUTF8? (bytes.extract 0 (bytes.size - left))
  (text?.map String.toList).getD []

/-! ### Pieces and blocks -/

def pieceSize : Nat := 8192

def blockSize : Nat := 4096

/-- Where the block of a character begins. The first two come in as one. -/
def blockStart (index : Nat) : Nat :=
  if index < 2 * blockSize then 0 else index / blockSize * blockSize

namespace Source

/-- The blocks before that of a character, which has a fault. -/
def stopAt (source : Source) (index : Nat) (fault : ParseError) : Source where
  text := source.text.take (blockStart index)
  stop := some fault

def decoded (bytes : ByteArray) : Source :=
  match String.fromUTF8? bytes with
  | some text => { text := unifyLineEnds text.toList, stop := none }
  | none =>
      let length := soundLength [] bytes.toList
      let whole := if length < bytes.size then length / pieceSize * pieceSize else length
      let text := unifyLineEnds (soundText (bytes.extract 0 whole))
      { text, stop := none : Source }.stopAt text.length .undecodable

def checked (source : Source) : Source :=
  match source.text.findIdx? fun c => !isAllowed c with
  | some index => source.stopAt index .malformed
  | none => source

def ofBytes (bytes : ByteArray) : Source :=
  (decoded bytes).checked

end Source

end OpticTune.Sample.Document
