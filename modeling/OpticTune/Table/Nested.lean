import OpticTune.Table

namespace OpticTune

/-! Tables written as nested lists.

A nest has a shape when the items of every list have one shape; the shape lists
the lengths from the outside in, of which there are only so many. Only a nest
with a shape is a table, and words in it are no entries.
-/

inductive Nested (α : Type) where
  | entry (value : α)
  | word (text : String)
  | list (items : List (Nested α))

/-- A table of whatever shape was found. -/
structure Sheet (α : Type) where
  rowCount : Nat
  columnCount : Nat
  table : Table α rowCount columnCount
  /-- Whether the cells are lists themselves; the table is then zero throughout. -/
  isDeep : Bool

namespace Nested

variable {α : Type}

mutual

/-- The lengths from the outside in; none if lists beside each other differ. -/
def lengths? : Nested α → Option (List Nat)
  | .entry _ => some []
  | .word _ => none
  | .list items =>
      match commonLengths? items with
      | some (some inner) => some (items.length :: inner)
      | some none => some [0]
      | none => none

/-- The lengths that all items share: none if they differ, no lengths if there are
no items. -/
def commonLengths? : List (Nested α) → Option (Option (List Nat))
  | [] => some none
  | item :: rest =>
      match item.lengths?, commonLengths? rest with
      | some lengths, some none => some (some lengths)
      | some lengths, some (some others) =>
          if lengths = others then some (some lengths) else none
      | _, _ => none

end

def mostLevels : Nat := 64

def shape? (nest : Nested α) : Option (List Nat) :=
  nest.lengths?.filter fun lengths => decide (lengths.length ≤ mostLevels)

mutual

def entries : Nested α → List α
  | .entry value => [value]
  | .word _ => []
  | .list items => entriesOf items

def entriesOf : List (Nested α) → List α
  | [] => []
  | item :: rest => item.entries ++ entriesOf rest

end

/-- Entries laid out in rows; a place without an entry holds zero. -/
def layOut [Zero α] (values : List α) (m n : Nat) : Table α m n :=
  let cells := values.toArray
  Table.ofFn fun i j => cells.getD (i.val * n + j.val) 0

/-- A table from a nest of depth two, from one row, or from a single entry; of a
deeper nest the numbers of rows and columns. -/
def sheet? [Zero α] (nest : Nested α) : Option (Sheet α) :=
  match nest.shape? with
  | some [] => some ⟨1, 1, layOut nest.entries 1 1, false⟩
  | some [n] => some ⟨1, n, layOut nest.entries 1 n, false⟩
  | some [m, n] => some ⟨m, n, layOut nest.entries m n, false⟩
  | some (m :: n :: _) => some ⟨m, n, Table.zeros, true⟩
  | none => none

end Nested

end OpticTune
