namespace OpticTune

/-! Lists of entries under distinct keys, in the order of the keys' first
appearance. -/

namespace Keyed

variable {κ ν : Type}

/-- Puts a value under a key; a key already there keeps its place. -/
def put (same : κ → κ → Bool) (key : κ) (value : ν) : List (κ × ν) → List (κ × ν)
  | [] => [(key, value)]
  | (other, held) :: rest =>
      if same other key then (other, value) :: rest
      else (other, held) :: put same key value rest

/-- Of entries under one key the last counts, at the place of the first. -/
def ofList (same : κ → κ → Bool) (entries : List (κ × ν)) : List (κ × ν) :=
  entries.foldl (fun kept (key, value) => put same key value kept) []

end Keyed

end OpticTune
