namespace OpticTune.Word

/-! The whole numbers that fit into a machine word, and what half of one keeps. -/

def bound : Int := Int.pow 2 63

def half : Nat := Nat.pow 2 31

def holds (number : Int) : Bool :=
  decide (-bound ≤ number) && decide (number < bound)

/-- Whether a word holds the number, or would if it had no sign. -/
def carries (number : Int) : Bool :=
  decide (-bound ≤ number) && decide (number < 2 * bound)

/-- The number that the lower half of a word stands for. -/
def lowerHalf (number : Int) : Int :=
  number.bmod (2 * half)

theorem lowerHalf_of_small {number : Int} (low : -half ≤ number) (high : number < half) :
    lowerHalf number = number :=
  Int.bmod_eq_of_le (by omega) (by omega)

end OpticTune.Word
