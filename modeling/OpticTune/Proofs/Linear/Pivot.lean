import OpticTune.Linear.Inverse
import OpticTune.Proofs.Scalar.Rational

namespace OpticTune.Linear

/-! The search for a pivot, in exact arithmetic: it ends inside the remaining
block, at an entry no other entry of the block exceeds. -/

variable {n : ℕ}

@[simp]
theorem mem_remaining {pass i : Fin n} : i ∈ remaining pass ↔ pass ≤ i := by
  simp [remaining]

@[simp]
theorem mem_remainingPlaces {pass : Fin n} {place : Fin n × Fin n} :
    place ∈ remainingPlaces pass ↔ pass ≤ place.1 ∧ pass ≤ place.2 := by
  obtain ⟨i, j⟩ := place
  simp [remainingPlaces]

section Largest

variable {β : Type} (size : β → ℚ)

/-- The place a search stays with that moves on to larger ones only. -/
def largest (places : List β) (start : β) : β :=
  places.foldl (fun best place => if size best < size place then place else best) start

theorem largest_cons (place start : β) (places : List β) :
    largest size (place :: places) start =
      largest size places (if size start < size place then place else start) := rfl

theorem largest_mem (places : List β) (start : β) :
    largest size places start = start ∨ largest size places start ∈ places := by
  induction places generalizing start with
  | nil => exact .inl rfl
  | cons place places ih =>
      rw [largest_cons]
      split
      · rcases ih place with same | member
        · exact .inr (by rw [same]; exact List.mem_cons_self)
        · exact .inr (List.mem_cons_of_mem _ member)
      · exact (ih start).imp_right (List.mem_cons_of_mem _)

theorem le_largest_start (places : List β) (start : β) :
    size start ≤ size (largest size places start) := by
  induction places generalizing start with
  | nil => exact le_rfl
  | cons place places ih =>
      rw [largest_cons]
      split
      · rename_i larger
        exact larger.le.trans (ih place)
      · exact ih start

theorem le_largest {places : List β} {place : β} (member : place ∈ places) (start : β) :
    size place ≤ size (largest size places start) := by
  induction places generalizing start with
  | nil => contradiction
  | cons first places ih =>
      rw [largest_cons]
      rcases List.mem_cons.mp member with rfl | member
      · split
        · exact le_largest_start size places place
        · rename_i smaller
          exact (le_of_not_gt smaller).trans (le_largest_start size places start)
      · exact ih member _

end Largest

variable (work : Table ℚ n n) (pass : Fin n)

theorem pivotPlace_eq_largest :
    pivotPlace work pass =
      largest (fun place => |work.get place.1 place.2|) (remainingPlaces pass) (pass, pass) := by
  simp only [pivotPlace, largest, Rational.outranks_eq, Rational.abs_eq, decide_eq_true_eq]

theorem pass_le_pivotPlace :
    pass ≤ (pivotPlace work pass).1 ∧ pass ≤ (pivotPlace work pass).2 := by
  rw [pivotPlace_eq_largest]
  rcases largest_mem (fun place => |work.get place.1 place.2|) (remainingPlaces pass)
    (pass, pass) with same | member
  · rw [same]
    exact ⟨le_rfl, le_rfl⟩
  · exact mem_remainingPlaces.mp member

theorem abs_le_abs_pivot {i j : Fin n} (row : pass ≤ i) (column : pass ≤ j) :
    |work.get i j| ≤ |work.get (pivotPlace work pass).1 (pivotPlace work pass).2| := by
  have member : (i, j) ∈ remainingPlaces pass := mem_remainingPlaces.mpr ⟨row, column⟩
  rw [pivotPlace_eq_largest]
  exact le_largest (fun place : Fin n × Fin n => |work.get place.1 place.2|) member (pass, pass)

/-- A place of the remaining block whose entry no other one of the block exceeds.
There may be several. -/
structure IsPivot (place : Fin n × Fin n) : Prop where
  row : pass ≤ place.1
  column : pass ≤ place.2
  largest : ∀ i j, pass ≤ i → pass ≤ j → |work.get i j| ≤ |work.get place.1 place.2|

theorem isPivot_pivotPlace : IsPivot work pass (pivotPlace work pass) where
  row := (pass_le_pivotPlace work pass).1
  column := (pass_le_pivotPlace work pass).2
  largest _ _ row column := abs_le_abs_pivot work pass row column

variable {work pass} in
/-- A pivot of zero stands for a block of zeros. -/
theorem IsPivot.eq_zero {place : Fin n × Fin n} (pivot : IsPivot work pass place)
    (zero : work.get place.1 place.2 = 0) {i j : Fin n} (row : pass ≤ i) (column : pass ≤ j) :
    work.get i j = 0 := by
  have small := pivot.largest i j row column
  rw [zero, abs_zero] at small
  exact abs_nonpos_iff.mp small

end OpticTune.Linear
