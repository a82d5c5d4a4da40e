import OpticTune.Proofs.Linear.Inverse

namespace OpticTune

/-- The largest magnitude in a table; zero if the table has no entries. -/
def Table.largestEntry {m n : ℕ} (table : Table ℚ m n) : ℚ :=
  (Finset.univ.sup fun place : Fin m × Fin n => (table.get place.1 place.2).nnabs : ℚ≥0)

theorem Table.abs_le_largestEntry {m n : ℕ} (table : Table ℚ m n) (i : Fin m) (j : Fin n) :
    |table.get i j| ≤ table.largestEntry := by
  have below := Finset.le_sup (f := fun place : Fin m × Fin n =>
    (table.get place.1 place.2).nnabs) (Finset.mem_univ (i, j))
  rw [← Rat.coe_nnabs]
  exact NNRat.coe_le_coe.mpr below

theorem Table.largestEntry_nonneg {m n : ℕ} (table : Table ℚ m n) : 0 ≤ table.largestEntry :=
  NNRat.coe_nonneg _

namespace Linear

/-! How large the entries can become while a matrix is eliminated.

The rows and columns from a pass on form the block that is still active. The pivot
is its largest entry, so no multiplier and no entry of the normalised row exceeds
one there, and a pass at most doubles what the block holds.
-/

variable {n : ℕ}

section Pass

variable {work : Table ℚ n n} {k : Fin n} {place : Fin n × Fin n}

/-- The work with the entry at `place` brought to the diagonal. -/
def brought (work : Table ℚ n n) (k : Fin n) (place : Fin n × Fin n) : Table ℚ n n :=
  exchangeColumns k place.2 (exchangeRows k place.1 work)

section Exchanges

variable {bound : ℚ} (bounded : ∀ i j, k ≤ i → k ≤ j → |work.get i j| ≤ bound)

include bounded

theorem abs_exchangeRows_le {row : Fin n} (inside : k ≤ row) (i j : Fin n) (below : k ≤ i)
    (beside : k ≤ j) : |(exchangeRows k row work).get i j| ≤ bound := by
  rw [exchangeRows, Table.get_ofFn]
  split_ifs
  · exact bounded row j inside beside
  · rw [abs_neg]
    exact bounded k j le_rfl beside
  · exact bounded i j below beside

theorem abs_exchangeColumns_le {column : Fin n} (inside : k ≤ column) (i j : Fin n)
    (below : k ≤ i) (beside : k ≤ j) : |(exchangeColumns k column work).get i j| ≤ bound := by
  rw [exchangeColumns, Table.get_ofFn]
  split_ifs
  · exact bounded i column below inside
  · rw [abs_neg]
    exact bounded i k below le_rfl
  · exact bounded i j below beside

/-- Exchanges within the active block bring nothing into it. -/
theorem abs_brought_le (row : k ≤ place.1) (column : k ≤ place.2) (i j : Fin n) (below : k ≤ i)
    (beside : k ≤ j) : |(brought work k place).get i j| ≤ bound :=
  abs_exchangeColumns_le (abs_exchangeRows_le bounded row) column i j below beside

end Exchanges

namespace IsPivot

variable (pivot : IsPivot work k place)

include pivot

theorem abs_brought_le (i j : Fin n) (below : k ≤ i) (beside : k ≤ j) :
    |(brought work k place).get i j| ≤ |work.get place.1 place.2| :=
  Linear.abs_brought_le pivot.largest pivot.row pivot.column i j below beside

theorem abs_multiplier_le (i : Fin n) (below : k ≤ i) :
    |-(brought work k place).get i k / work.get place.1 place.2| ≤ 1 := by
  rw [abs_div, abs_neg]
  exact div_le_one_of_le₀ (pivot.abs_brought_le i k below le_rfl) (abs_nonneg _)

theorem abs_normalised_le (j : Fin n) (beside : k ≤ j) :
    |(brought work k place).get k j / work.get place.1 place.2| ≤ 1 := by
  rw [abs_div]
  exact div_le_one_of_le₀ (pivot.abs_brought_le k j le_rfl beside) (abs_nonneg _)

end IsPivot

/-- What a pass with its pivot at `place` makes of the work, and how large what it
works with can be. The multipliers replace column `k`, the normalised row replaces
row `k`. -/
structure Tamed (k : Fin n) (place : Fin n × Fin n) (work after : Table ℚ n n) : Prop where
  pivot : IsPivot work k place
  multiplier : ∀ i, i ≠ k →
    after.get i k = -(brought work k place).get i k / work.get place.1 place.2
  normalised : ∀ j, j ≠ k →
    after.get k j = (brought work k place).get k j / work.get place.1 place.2
  cleared : ∀ i j, i ≠ k → j ≠ k → after.get i j =
    (brought work k place).get i j + after.get i k * (brought work k place).get k j
  abs_multiplier : ∀ i, k < i → |after.get i k| ≤ 1
  abs_normalised : ∀ j, k < j → |after.get k j| ≤ 1

theorem IsPivot.tamed (pivot : IsPivot work k place) :
    Tamed k place work (clearColumn k (work.get place.1 place.2) (brought work k place)) := by
  have multiplier (i : Fin n) (other : i ≠ k) :
      (clearColumn k (work.get place.1 place.2) (brought work k place)).get i k =
        -(brought work k place).get i k / work.get place.1 place.2 := by
    simp [clearColumn, other]
  have normalised (j : Fin n) (other : j ≠ k) :
      (clearColumn k (work.get place.1 place.2) (brought work k place)).get k j =
        (brought work k place).get k j / work.get place.1 place.2 := by
    simp [clearColumn, other]
  refine ⟨pivot, multiplier, normalised, fun i j row column => ?_, fun i below => ?_,
    fun j beside => ?_⟩
  · rw [multiplier i row]
    simp [clearColumn, row, column]
  · rw [multiplier i below.ne']
    exact pivot.abs_multiplier_le i below.le
  · rw [normalised j beside.ne']
    exact pivot.abs_normalised_le j beside.le

/-- A pass adds to every entry of the block at most another one. -/
theorem Tamed.abs_le_double {after : Table ℚ n n} (tamed : Tamed k place work after) {bound : ℚ}
    (bounded : ∀ i j, k ≤ i → k ≤ j → |work.get i j| ≤ bound) (i j : Fin n) (below : k < i)
    (beside : k < j) : |after.get i j| ≤ 2 * bound := by
  have block := abs_brought_le bounded tamed.pivot.row tamed.pivot.column
  have kept := block i j below.le beside.le
  have added := block k j le_rfl beside.le
  have small := tamed.abs_multiplier i below
  calc |after.get i j|
      ≤ |(brought work k place).get i j| +
          |after.get i k| * |(brought work k place).get k j| := by
        rw [tamed.cleared i j below.ne' beside.ne', ← abs_mul]
        exact abs_add_le _ _
    _ ≤ bound + 1 * bound := by gcongr
    _ = 2 * bound := by ring

end Pass

/-- How far the entries still to be eliminated, and the determinant, have grown at
the most after some passes. -/
structure Grown (matrix : Table ℚ n n) (passes : ℕ) (e : Elimination ℚ n) : Prop where
  entries : ∀ i j : Fin n, passes ≤ i → passes ≤ j →
    |e.work.get i j| ≤ 2 ^ passes * matrix.largestEntry
  determinant : |e.determinant| ≤ ∏ i ∈ Finset.range passes, 2 ^ i * matrix.largestEntry

variable {matrix : Table ℚ n n}

theorem grown_start : Grown matrix 0 (Elimination.start matrix) where
  entries i j _ _ := by
    rw [pow_zero, one_mul]
    exact matrix.abs_le_largestEntry i j
  determinant := by
    rw [Finset.prod_range_zero]
    exact abs_one.le

/-- The pivot is an entry of the block, which bounds the factor the determinant
gains. -/
theorem Grown.cleared {k : Fin n} {e : Elimination ℚ n} {place : Fin n × Fin n}
    (grown : Grown matrix k e) (pivot : IsPivot e.work k place) :
    Grown matrix (k + 1) (e.cleared k place) where
  entries i j below beside := by
    rw [pow_succ', mul_assoc]
    exact pivot.tamed.abs_le_double grown.entries i j below beside
  determinant := by
    have factor := grown.entries place.1 place.2 pivot.row pivot.column
    have nonneg : 0 ≤ ∏ i ∈ Finset.range k.val, 2 ^ i * matrix.largestEntry :=
      (abs_nonneg _).trans grown.determinant
    rw [Finset.prod_range_succ, Elimination.cleared, abs_mul]
    exact mul_le_mul grown.determinant factor (abs_nonneg _) nonneg

theorem Elimination.Reaches.grown {passes : ℕ} {outcome : Option (Elimination ℚ n)}
    (reaches : Elimination.Reaches matrix passes outcome) :
    ∀ e ∈ outcome, Grown matrix passes e := by
  induction reaches with
  | start =>
      rintro e ⟨⟩
      exact grown_start
  | stuck _ _ => nofun
  | pass _ passes grown =>
      cases passes with
      | stuck _ _ => nofun
      | cleared pivot _ =>
          rintro e ⟨⟩
          exact (grown _ rfl).cleared pivot

/-- A pass that is not stuck is the one with the pivot that was found. -/
theorem Elimination.eq_cleared_of_step {k : Fin n} {e next : Elimination ℚ n}
    (stepped : e.step k = some next) : next = e.cleared k (pivotPlace e.work k) := by
  simp only [step] at stepped
  split at stepped
  · contradiction
  · exact (Option.some.inj stepped).symm

/-- A pass that is stuck finds nothing but zeros. -/
theorem Elimination.eq_zero_of_stuck {k : Fin n} {e : Elimination ℚ n} (stuck : e.step k = none)
    {i j : Fin n} (row : k ≤ i) (column : k ≤ j) : e.work.get i j = 0 := by
  have passes := passes_step k e
  rw [stuck] at passes
  cases passes with
  | stuck pivot zero => exact pivot.eq_zero zero row column

/-- Full pivoting tames the elimination. The pivot of a pass is the largest entry of
the active block, so that no multiplier and no entry of the normalised row exceeds
one there. After `k` passes the block has grown by `2 ^ k` at the most, and the
determinant is bounded by the product of these bounds, to the end. Where a pass is
stuck, and so nothing changes any more, the block is zero. -/
theorem growth_bounded (matrix : Table ℚ n n) :
    (∀ (k : Fin n) (e next : Elimination ℚ n), Elimination.run matrix k = some e →
      e.step k = some next → Tamed k (pivotPlace e.work k) e.work next.work) ∧
    (∀ (k : Fin n) (e : Elimination ℚ n), Elimination.run matrix k = some e →
      e.step k = none → ∀ i j, k ≤ i → k ≤ j → e.work.get i j = 0) ∧
    (∀ passes ≤ n, ∀ e, Elimination.run matrix passes = some e →
      (∀ i j : Fin n, passes ≤ i → passes ≤ j →
        |e.work.get i j| ≤ 2 ^ passes * matrix.largestEntry) ∧
      |e.determinant| ≤ ∏ i ∈ Finset.range passes, 2 ^ i * matrix.largestEntry) ∧
    |(invert matrix).determinant| ≤ ∏ i ∈ Finset.range n, 2 ^ i * matrix.largestEntry := by
  have grown {passes : ℕ} (inside : passes ≤ n) {e : Elimination ℚ n}
      (ran : Elimination.run matrix passes = some e) : Grown matrix passes e :=
    (reaches_run matrix inside).grown e ran
  refine ⟨fun k e next _ stepped => ?_, fun k e _ stuck i j row column => ?_,
    fun passes inside e ran => ?_, ?_⟩
  · rw [Elimination.eq_cleared_of_step stepped]
    exact (isPivot_pivotPlace e.work k).tamed
  · exact Elimination.eq_zero_of_stuck stuck row column
  · exact ⟨(grown inside ran).entries, (grown inside ran).determinant⟩
  · unfold invert
    cases ran : Elimination.run matrix n with
    | some e => exact (grown le_rfl ran).determinant
    | none =>
        rw [abs_zero]
        have nonneg := matrix.largestEntry_nonneg
        exact Finset.prod_nonneg fun i _ => by positivity

/-- Of magnitudes one, with an entry that the first pass doubles. -/
def doubling : Table ℚ 2 2 := .ofFn ![![1, 1], ![1, -1]]

/-- Every bound is attained. -/
theorem growth_bounded_doubling : doubling.largestEntry = 1 ∧
    ∃ e next, Elimination.run doubling 1 = some e ∧ e.step 1 = some next ∧
      Tamed 1 (pivotPlace e.work 1) e.work next.work ∧
      |e.work.get 1 1| ≤ 2 ^ 1 * doubling.largestEntry ∧ |e.work.get 1 1| = 2 ∧
      |(invert doubling).determinant| ≤ ∏ i ∈ Finset.range 2, 2 ^ i * doubling.largestEntry ∧
      |(invert doubling).determinant| = 2 := by
  have largest : doubling.largestEntry = 1 := by decide +kernel
  have goes : ((Elimination.run doubling 1).bind fun e => e.step 1).isSome = true := by
    decide +kernel
  obtain ⟨next, both⟩ := Option.isSome_iff_exists.mp goes
  obtain ⟨e, ran, stepped⟩ := Option.bind_eq_some_iff.mp both
  have entry : (Elimination.run doubling 1).map (fun e => |e.work.get 1 1|) = some 2 := by
    decide +kernel
  rw [ran] at entry
  obtain ⟨tamed, -, bounded, determinant⟩ := growth_bounded doubling
  exact ⟨largest, e, next, ran, stepped, tamed 1 e next ran stepped,
    (bounded 1 (by decide) e ran).1 1 1 le_rfl le_rfl, Option.some.inj entry, determinant,
    by decide +kernel⟩

end Linear

end OpticTune
