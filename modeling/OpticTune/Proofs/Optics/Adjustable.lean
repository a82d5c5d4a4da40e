import Mathlib.Data.Int.Notation
import Mathlib.Data.List.Nodup
import Mathlib.Algebra.Order.Ring.Rat
import OpticTune.Optics.Adjustable
import OpticTune.Optics.Attribute

namespace OpticTune.Optics.Adjustable

/-! The cells an adjustable moves, and how far.

The reach of an adjustable at a cell is how far that cell goes when the adjustable
moves by one: one at its master, the signs of the links at theirs, each counted as
often as the cell is named.
-/

def claims (adjustable : Adjustable) : List ℤ :=
  adjustable.record :: adjustable.links.map Link.record

/-- The cells of an adjustable lie in a table of this shape. -/
structure Inside (rows columns : ℕ) (adjustable : Adjustable) : Prop where
  column : 0 ≤ adjustable.column ∧ adjustable.column < columns
  record : 0 ≤ adjustable.record ∧ adjustable.record < rows
  links : ∀ link ∈ adjustable.links, 0 ≤ link.record ∧ link.record < rows

def linkReach (links : List Link) (record : ℤ) : ℚ :=
  (links.map fun link => if record = link.record then (link.sign : ℚ) else 0).sum

def reach (adjustable : Adjustable) (record column : ℤ) : ℚ :=
  if column = adjustable.column then
    (if record = adjustable.record then 1 else 0) + linkReach adjustable.links record
  else 0

/-- What a SHAPE adjustable takes along, which is ASPHER of its master. -/
def carriedReach (adjustable : Adjustable) (record column : ℤ) : ℚ :=
  if adjustable.column = Surface.shape ∧ record = adjustable.record ∧ column = Surface.aspher
  then 1 else 0

def surfaceReach (adjustable : Adjustable) (record column : ℤ) : ℚ :=
  adjustable.reach record column + adjustable.carriedReach record column

section Links

variable {links : List Link}

theorem linkReach_cons (link : Link) (record : ℤ) :
    linkReach (link :: links) record =
      (if record = link.record then (link.sign : ℚ) else 0) + linkReach links record := by
  rw [linkReach, List.map_cons, List.sum_cons, linkReach]

theorem linkReach_eq_zero {record : ℤ} (unnamed : record ∉ links.map Link.record) :
    linkReach links record = 0 := by
  induction links with
  | nil => rfl
  | cons link rest ih =>
      obtain ⟨other, unnamed⟩ := not_or.mp (mt List.mem_cons.mpr unnamed)
      rw [linkReach_cons, if_neg other, zero_add, ih unnamed]

theorem linkReach_link (once : (links.map Link.record).Nodup) {link : Link}
    (member : link ∈ links) : linkReach links link.record = link.sign := by
  induction links with
  | nil => nomatch member
  | cons first rest ih =>
      obtain ⟨unnamed, once⟩ := List.nodup_cons.mp once
      rw [linkReach_cons]
      rcases List.mem_cons.mp member with rfl | member
      · rw [if_pos rfl, linkReach_eq_zero unnamed, add_zero]
      · have other : link.record ≠ first.record := by
          intro same
          exact unnamed (same ▸ List.mem_map_of_mem member)
        rw [if_neg other, zero_add, ih once member]

end Links

variable {adjustable : Adjustable} {record column : ℤ}

theorem reach_other_column (other : column ≠ adjustable.column) :
    adjustable.reach record column = 0 :=
  if_neg other

theorem reach_unclaimed (unclaimed : record ∉ adjustable.claims) :
    adjustable.reach record column = 0 := by
  obtain ⟨notMaster, notLinked⟩ := not_or.mp (mt List.mem_cons.mpr unclaimed)
  rw [reach, if_neg notMaster, linkReach_eq_zero notLinked, zero_add, ite_self]

section Once

variable (once : adjustable.claims.Nodup)

include once

theorem reach_master : adjustable.reach adjustable.record adjustable.column = 1 := by
  rw [reach, if_pos rfl, if_pos rfl, linkReach_eq_zero (List.nodup_cons.mp once).1, add_zero]

theorem reach_link {link : Link} (member : link ∈ adjustable.links) :
    adjustable.reach link.record adjustable.column = link.sign := by
  obtain ⟨notLinked, linksOnce⟩ := List.nodup_cons.mp once
  have notMaster : link.record ≠ adjustable.record := by
    intro same
    exact notLinked (same ▸ List.mem_map_of_mem member)
  rw [reach, if_pos rfl, if_neg notMaster, zero_add, linkReach_link linksOnce member]

end Once

end OpticTune.Optics.Adjustable
