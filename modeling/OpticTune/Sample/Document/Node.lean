import OpticTune.Sample.Document.Token

namespace OpticTune.Sample.Document

/-! The nesting of an options document, its texts not yet read as values.

`parse` functions return what they read and the tokens after it. They look at
one token after another, so of several faults the first one counts. Lists and
mappings nest no deeper than `levels`. The `fuel` bounds the length of the
nesting beside its depth; the number of tokens is enough.
-/

open Text (CodePoint)

inductive Node where
  | plain (content : List Char)
  | quoted (content : List CodePoint)
  | list (items : List Node)
  | mapping (entries : List (Node × Node))

namespace Node

def empty : Node := .plain []

def mostLevels : Nat := 489

/-- Where a node may stand, which decides what it may begin with. -/
inductive Context where
  /-- Inside brackets. -/
  | bracketed
  /-- On a line of its own, or after a dash. -/
  | block
  /-- In a mapping, whose indentation a list may share. -/
  | ofMapping
deriving DecidableEq

def opens : Token → Bool
  | .openList | .openMapping | .item | .blockList | .blockMapping => true
  | _ => false

def refusal : List Token → ParseError
  | .unreadable error :: _ => error
  | _ => .malformed

def refusalWithin (levels : Nat) (tokens : List Token) : ParseError :=
  if levels = 0 ∧ tokens.head?.any opens then .tooDeep else refusal tokens

/-- The comma in front of every part of a bracketed list or mapping but the first. -/
def skipComma (first : Bool) (tokens : List Token) : Except ParseError (List Token) :=
  if first then .ok tokens
  else
    match tokens with
    | .comma :: rest => .ok rest
    | _ => .error (refusal tokens)

mutual

def parse (context : Context) : (fuel levels : Nat) → List Token →
    Except ParseError (Node × List Token)
  | 0, _, tokens => .error (refusal tokens)
  | fuel + 1, levels, tokens =>
    match tokens, levels with
    | .plain content :: rest, _ => .ok (.plain content, rest)
    | .quoted content :: rest, _ => .ok (.quoted content, rest)
    | .openList :: rest, levels + 1 => do
      let (items, rest) ← parseList fuel levels true rest
      return (.list items, rest)
    | .openMapping :: rest, levels + 1 => do
      let (entries, rest) ← parseMapping fuel levels true rest
      return (.mapping entries, rest)
    | .item :: _, levels + 1 => do
      unless context = .ofMapping do throw .malformed
      let (items, rest) ← parseItems fuel levels false tokens
      return (.list items, rest)
    | .blockList :: rest, levels + 1 => do
      if context = .bracketed then throw .malformed
      let (items, rest) ← parseItems fuel levels true rest
      return (.list items, rest)
    | .blockMapping :: rest, levels + 1 => do
      if context = .bracketed then throw .malformed
      let (entries, rest) ← parseEntries fuel levels rest
      return (.mapping entries, rest)
    | _, _ => .error (refusalWithin levels tokens)
termination_by structural fuel => fuel

/-- The items of a list marked by dashes. One with a block of its own ends with
that block, one that shares a mapping's indentation where the dashes end. -/
def parseItems : (fuel levels : Nat) → (ownBlock : Bool) → List Token →
    Except ParseError (List Node × List Token)
  | 0, _, _, tokens => .error (refusal tokens)
  | fuel + 1, levels, ownBlock, tokens =>
    match tokens with
    | .item :: rest => do
      let (first, rest) ←
        match rest with
        | .item :: _ | .blockEnd :: _ => .ok (empty, rest)
        | .key :: _ | .value :: _ =>
            if ownBlock then .error .malformed else .ok (empty, rest)
        | _ => parse .block fuel levels rest
      let (others, rest) ← parseItems fuel levels ownBlock rest
      return (first :: others, rest)
    | .blockEnd :: rest => .ok ([], if ownBlock then rest else tokens)
    | _ => if ownBlock then .error (refusal tokens) else .ok ([], tokens)
termination_by structural fuel => fuel

def parseEntries : (fuel levels : Nat) → List Token →
    Except ParseError (List (Node × Node) × List Token)
  | 0, _, tokens => .error (refusal tokens)
  | fuel + 1, levels, tokens =>
    match tokens with
    | .key :: rest => do
      let (key, rest) ←
        match rest with
        | .key :: _ | .value :: _ | .blockEnd :: _ => .ok (empty, rest)
        | _ => parse .ofMapping fuel levels rest
      let (value, rest) ←
        match rest with
        | .value :: rest =>
          match rest with
          | .key :: _ | .value :: _ | .blockEnd :: _ => .ok (empty, rest)
          | _ => parse .ofMapping fuel levels rest
        | _ => .ok (empty, rest)
      let (others, rest) ← parseEntries fuel levels rest
      return ((key, value) :: others, rest)
    | .blockEnd :: rest => .ok ([], rest)
    | _ => .error (refusal tokens)
termination_by structural fuel => fuel

/-- The items of a bracketed list. An item with a colon is a mapping of one
entry. -/
def parseList : (fuel levels : Nat) → (first : Bool) → List Token →
    Except ParseError (List Node × List Token)
  | 0, _, _, tokens => .error (refusal tokens)
  | fuel + 1, levels, first, tokens =>
    match tokens with
    | .closeList :: rest => .ok ([], rest)
    | _ => do
      let tokens ← skipComma first tokens
      match tokens, levels with
      | .closeList :: rest, _ => return ([], rest)
      | .key :: _, 0 => throw .tooDeep
      | .key :: rest, levels + 1 =>
        let (key, rest) ←
          match rest with
          | .value :: _ | .comma :: _ | .closeList :: _ => .ok (empty, rest)
          | _ => parse .bracketed fuel levels rest
        let (value, rest) ←
          match rest with
          | .value :: rest =>
            match rest with
            | .comma :: _ | .closeList :: _ => .ok (empty, rest)
            | _ => parse .bracketed fuel levels rest
          | _ => .ok (empty, rest)
        let (others, rest) ← parseList fuel (levels + 1) false rest
        return (.mapping [(key, value)] :: others, rest)
      | _, _ =>
        let (item, rest) ← parse .bracketed fuel levels tokens
        let (others, rest) ← parseList fuel levels false rest
        return (item :: others, rest)
termination_by structural fuel => fuel

/-- The entries of a bracketed mapping. An entry without a colon has no value. -/
def parseMapping : (fuel levels : Nat) → (first : Bool) → List Token →
    Except ParseError (List (Node × Node) × List Token)
  | 0, _, _, tokens => .error (refusal tokens)
  | fuel + 1, levels, first, tokens =>
    match tokens with
    | .closeMapping :: rest => .ok ([], rest)
    | _ => do
      let tokens ← skipComma first tokens
      match tokens with
      | .closeMapping :: rest => return ([], rest)
      | .key :: rest =>
        let (key, rest) ←
          match rest with
          | .value :: _ | .comma :: _ | .closeMapping :: _ => .ok (empty, rest)
          | _ => parse .bracketed fuel levels rest
        let (value, rest) ←
          match rest with
          | .value :: rest =>
            match rest with
            | .comma :: _ | .closeMapping :: _ => .ok (empty, rest)
            | _ => parse .bracketed fuel levels rest
          | _ => .ok (empty, rest)
        let (others, rest) ← parseMapping fuel levels false rest
        return ((key, value) :: others, rest)
      | _ =>
        let (key, rest) ← parse .bracketed fuel levels tokens
        let (others, rest) ← parseMapping fuel levels false rest
        return ((key, empty) :: others, rest)
termination_by structural fuel => fuel

end

def ofTokens (tokens : List Token) : Except ParseError Node := do
  let fuel := 2 * tokens.length + 2
  let (node, rest) ←
    match tokens with
    | [] => .ok (empty, [])
    | .documentStart :: rest =>
      match rest with
      | [] | .documentStart :: _ | .documentEnd :: _ => .ok (empty, rest)
      | _ => parse .block fuel mostLevels rest
    | _ => parse .block fuel mostLevels tokens
  match rest.dropWhile (· == .documentEnd) with
  | [] => return node
  | rest => throw (refusal rest)

end Node

end OpticTune.Sample.Document
