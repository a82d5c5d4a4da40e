namespace OpticTune.Sample.Document

inductive ParseError where
  | undecodable
  | malformed
  /-- The text ends within quotes. -/
  | unfinished
  /-- Lists and mappings inside each other, more than can be followed. -/
  | tooDeep
  /-- A whole number without digits after its base, or with too many digits. -/
  | digitCount
  /-- A number too large to be worked with. -/
  | tooLarge
  /-- A day the calendar does not have, or a time no day has. -/
  | noSuchMoment
  /-- An escape that names no code point. -/
  | noSuchCodePoint
deriving Repr, DecidableEq

end OpticTune.Sample.Document
