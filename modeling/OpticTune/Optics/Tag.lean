import OpticTune.Keyed
import OpticTune.Optics.Adjustable

namespace OpticTune.Optics

/-! Adjustables from tags.

For every column a table holds one tag per record. A `?` marks a lone
adjustable. A letter marks a group: its first record is the master, and every
later record whose tag reads the same in capitals is linked to it, with the same
sign if both are capital or neither is. Any other tag marks a fixed cell.
-/

structure Alphabet where
  isLetters : String → Bool
  upper : String → String
  isUpper : String → Bool

variable (alphabet : Alphabet)

def Alphabet.isAdjustable (tag : String) : Bool :=
  tag == "?" || (tag.length == 1 && alphabet.isLetters tag)

def Alphabet.sameGroup (tag other : String) : Bool :=
  alphabet.upper other == alphabet.upper tag

def Alphabet.sign (tag other : String) : Int :=
  if alphabet.isUpper other == alphabet.isUpper tag then 1 else -1

def inGroup (tag : String) (records : List (Int × String)) : List (Int × String) :=
  records.filter fun record => alphabet.sameGroup tag record.2

def outsideGroup (tag : String) (records : List (Int × String)) : List (Int × String) :=
  records.filter fun record => !alphabet.sameGroup tag record.2

theorem length_outsideGroup_le (tag : String) (records : List (Int × String)) :
    (outsideGroup alphabet tag records).length ≤ records.length :=
  List.length_filter_le ..

/-- The masters among the records given, each with its links. A record linked to
an earlier master is not looked at again. -/
def masters : List (Int × String) → List (Int × List Link)
  | [] => []
  | (record, tag) :: rest =>
      if alphabet.isAdjustable tag then
        if alphabet.isLetters tag then
          let links := (inGroup alphabet tag rest).map fun (record, other) =>
            { record, sign := alphabet.sign tag other }
          (record, links) :: masters (outsideGroup alphabet tag rest)
        else (record, []) :: masters rest
      else masters rest
termination_by records => records.length
decreasing_by
  · have := length_outsideGroup_le alphabet tag rest
    simp only [List.length_cons]
    omega
  · simp
  · simp

def records (tags : List String) : List (Int × String) :=
  tags.mapIdx fun record tag => ((record : Int), tag)

def adjustablesOfColumn (column : Int) (tags : List String) : List Adjustable :=
  (masters alphabet (records tags)).map fun (record, links) => { column, record, links }

/-- Columns in their order, and the records of each in theirs. -/
def adjustablesOfTags (columns : List (Int × List String)) : List Adjustable :=
  columns.flatMap fun (column, tags) => adjustablesOfColumn alphabet column tags

/-- The tags under distinct columns: of two under one column the later counts. -/
def tagColumns (entries : List (Int × List String)) : List (Int × List String) :=
  Keyed.ofList (fun column other => column == other) entries

end OpticTune.Optics
