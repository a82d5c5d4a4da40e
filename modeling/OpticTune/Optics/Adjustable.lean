namespace OpticTune.Optics

/-! Adjustable parameters: a master cell and the cells ganged to it. -/

/-- A cell of the master's column that follows it: by the same amount with sign
one, by the opposite amount with sign minus one. -/
structure Link where
  record : Int
  sign : Int
deriving Repr, DecidableEq

/-- One parameter, moving a cell of a surface column or of a ray column. -/
structure Adjustable where
  column : Int
  record : Int
  links : List Link
deriving Repr, DecidableEq

end OpticTune.Optics
