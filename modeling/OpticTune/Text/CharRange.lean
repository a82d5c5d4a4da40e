namespace OpticTune.Text

/-! Sets of characters as runs of code points. -/

/-- Every `step`-th code point from `first` to `last`. -/
structure CharRange where
  first : Nat
  last : Nat
  step : Nat

def CharRange.contains (range : CharRange) (c : Char) : Bool :=
  let code := c.toNat
  decide (range.first ≤ code) && decide (code ≤ range.last)
    && (code - range.first) % range.step == 0

/-- Whether a character is in one of the runs, each given by its first and last
code point and its step. -/
def isInRuns (runs : List (Nat × Nat × Nat)) (c : Char) : Bool :=
  runs.any fun (first, last, step) => CharRange.contains ⟨first, last, step⟩ c

end OpticTune.Text
