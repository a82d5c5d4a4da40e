import OpticTune.Proofs.Linear.Passes

namespace OpticTune.Linear

open scoped Matrix

/-! What the elimination returns: the determinant, and the inverse where there is one. -/

variable {n : ℕ}

theorem toMatrix_undoAll (exchanges : List (Exchange n)) (work : Table ℚ n n) :
    (undoAll exchanges work).toMatrix =
      columnsOf exchanges * work.toMatrix * rowsOf exchanges := by
  induction exchanges generalizing work with
  | nil => rw [columnsOf, rowsOf, Matrix.one_mul, Matrix.mul_one]; rfl
  | cons e rest ih =>
      rw [show undoAll (e :: rest) work = undoAll rest (e.undo work) from rfl, ih, toMatrix_undo,
        columnsOf, rowsOf]
      simp only [Matrix.mul_assoc]

variable {matrix : Table ℚ n n}

/-- One more pass. -/
theorem run_succ {passes : ℕ} (inside : passes < n) :
    Elimination.run matrix (passes + 1) =
      (Elimination.run matrix passes).bind fun e => e.step ⟨passes, inside⟩ := by
  have room : passes < (List.finRange n).length := by rwa [List.length_finRange]
  rw [Elimination.run, List.take_succ_eq_append_getElem room, List.foldlM_append,
    List.getElem_finRange]
  simp only [List.foldlM_cons, List.foldlM_nil, bind_pure]
  rfl

variable (matrix) in
/-- A run is one with the first of the largest entries for every pivot. -/
theorem reaches_run {passes : ℕ} (inside : passes ≤ n) :
    Elimination.Reaches matrix passes (Elimination.run matrix passes) := by
  induction passes with
  | zero => exact .start
  | succ passes ih =>
      have before := ih (by omega)
      rw [run_succ inside]
      cases ran : Elimination.run matrix passes with
      | none =>
          rw [ran] at before
          exact .stuck before
      | some e =>
          rw [ran] at before
          exact .pass (k := ⟨passes, inside⟩) before (passes_step _ e)

theorem done_all : done n n = 1 := by
  ext i j
  rw [done_apply, if_pos j.isLt]

theorem Eliminated.determinant_eq {e : Elimination ℚ n} (eliminated : Eliminated matrix n e) :
    e.determinant = matrix.toMatrix.det := by
  rw [eliminated.det_eq, reduced, done_all, sub_self, Matrix.mul_zero, add_zero, Matrix.det_one,
    mul_one]

theorem Eliminated.inverts {e : Elimination ℚ n} (eliminated : Eliminated matrix n e) :
    (undoAll e.exchanges e.work).toMatrix * matrix.toMatrix = 1 := by
  have full := eliminated.reduces
  rw [operations, reduced, done_all, sub_self, Matrix.mul_zero, add_zero, add_zero,
    Matrix.mul_one, Matrix.mul_assoc (rowsOf _), ← Matrix.mul_assoc, ← Matrix.mul_assoc] at full
  have turned := mul_eq_one_comm.mp full
  rw [toMatrix_undoAll, Matrix.mul_assoc, Matrix.mul_assoc]
  rwa [Matrix.mul_assoc] at turned

theorem Eliminated.regular {e : Elimination ℚ n} (eliminated : Eliminated matrix n e) :
    matrix.toMatrix.det ≠ 0 := by
  intro singular
  have unit := eliminated.determinant
  rw [eliminated.determinant_eq, singular, mul_zero] at unit
  exact zero_ne_one unit

/-- What is given back when all passes are made, or one of them got stuck. -/
def Inverse.ofOutcome (matrix : Table ℚ n n) : Option (Elimination ℚ n) → Inverse ℚ n
  | some e => ⟨undoAll e.exchanges e.work, e.determinant⟩
  | none => ⟨matrix, 0⟩

theorem invert_eq_ofOutcome : invert matrix = .ofOutcome matrix (Elimination.run matrix n) := by
  unfold invert
  cases Elimination.run matrix n <;> rfl

theorem Inverse.ext_toMatrix {left right : Inverse ℚ n}
    (matrix : left.matrix.toMatrix = right.matrix.toMatrix)
    (determinant : left.determinant = right.determinant) : left = right := by
  obtain ⟨leftMatrix, leftDeterminant⟩ := left
  obtain ⟨rightMatrix, rightDeterminant⟩ := right
  obtain rfl : leftDeterminant = rightDeterminant := determinant
  congr 1
  exact Table.ext_get fun i j => congrFun (congrFun matrix i) j

/-- What becomes of a matrix, whichever pivots are taken: a singular one is given
back. -/
theorem Elimination.Reaches.cases_inverse {outcome : Option (Elimination ℚ n)}
    (reaches : Elimination.Reaches matrix n outcome) :
    (outcome = none ∧ matrix.toMatrix.det = 0 ∧ Inverse.ofOutcome matrix outcome = ⟨matrix, 0⟩) ∨
    (outcome ≠ none ∧ matrix.toMatrix.det ≠ 0 ∧
      (Inverse.ofOutcome matrix outcome).determinant = matrix.toMatrix.det ∧
      (Inverse.ofOutcome matrix outcome).matrix.toMatrix * matrix.toMatrix = 1) := by
  have judged := reaches.judged
  cases outcome with
  | none => exact .inl ⟨rfl, judged, rfl⟩
  | some e =>
      exact .inr ⟨nofun, Eliminated.regular judged, Eliminated.determinant_eq judged,
        Eliminated.inverts judged⟩

variable (matrix) in
theorem invert_cases :
    (matrix.toMatrix.det = 0 ∧ invert matrix = ⟨matrix, 0⟩) ∨
    (matrix.toMatrix.det ≠ 0 ∧ (invert matrix).determinant = matrix.toMatrix.det ∧
      (invert matrix).matrix.toMatrix * matrix.toMatrix = 1) := by
  rw [invert_eq_ofOutcome]
  exact (reaches_run matrix le_rfl).cases_inverse.imp And.right And.right

/-- Every choice among the largest entries comes to the same determinant and the
same inverse. -/
theorem Elimination.Reaches.ofOutcome_eq {outcome : Option (Elimination ℚ n)}
    (reaches : Elimination.Reaches matrix n outcome) :
    Inverse.ofOutcome matrix outcome = invert matrix := by
  obtain ⟨_, singular, given⟩ | ⟨_, regular, determinant, inverts⟩ := reaches.cases_inverse
  · obtain ⟨_, frozen⟩ | ⟨regular, _⟩ := invert_cases matrix
    · rw [given, frozen]
    · exact absurd singular regular
  · obtain ⟨singular, _⟩ | ⟨_, determinantRun, invertsRun⟩ := invert_cases matrix
    · exact absurd singular regular
    · apply Inverse.ext_toMatrix
      · exact (Matrix.inv_eq_left_inv inverts).symm.trans (Matrix.inv_eq_left_inv invertsRun)
      · exact determinant.trans determinantRun.symm

variable (matrix) in
/-- Some pivot is zero exactly when the matrix is singular. -/
theorem run_eq_none_iff :
    (∃ passes ≤ n, Elimination.run matrix passes = none) ↔ matrix.toMatrix.det = 0 := by
  constructor
  · rintro ⟨passes, inside, stuck⟩
    have reaches := reaches_run matrix inside
    rw [stuck] at reaches
    exact reaches.judged
  · intro singular
    obtain ⟨stuck, _⟩ | ⟨_, regular, _⟩ := (reaches_run matrix le_rfl).cases_inverse
    · exact ⟨n, le_rfl, stuck⟩
    · exact absurd singular regular

/-- The elimination gives the determinant, and with it either the inverse on both
sides or, once a pivot is zero, the matrix itself; and no choice between entries
equally large changes that. -/
theorem invert_exact (matrix : Table ℚ n n) :
    (invert matrix).determinant = matrix.toMatrix.det ∧
    (matrix.toMatrix.det ≠ 0 →
      matrix.toMatrix * (invert matrix).matrix.toMatrix = 1 ∧
      (invert matrix).matrix.toMatrix * matrix.toMatrix = 1) ∧
    (matrix.toMatrix.det = 0 → invert matrix = ⟨matrix, 0⟩) ∧
    ((∃ passes ≤ n, Elimination.run matrix passes = none) ↔ matrix.toMatrix.det = 0) ∧
    ∀ inverse, (∃ outcome, Elimination.Reaches matrix n outcome ∧
      inverse = .ofOutcome matrix outcome) ↔ inverse = invert matrix := by
  refine ⟨?_, ?_, ?_, run_eq_none_iff matrix, ?_⟩
  · obtain ⟨singular, given⟩ | ⟨_, determinant, _⟩ := invert_cases matrix
    · rw [given, singular]
    · exact determinant
  · intro regular
    obtain ⟨singular, _⟩ | ⟨_, _, inverts⟩ := invert_cases matrix
    · exact absurd singular regular
    · exact ⟨mul_eq_one_comm.mp inverts, inverts⟩
  · intro singular
    obtain ⟨_, given⟩ | ⟨regular, _⟩ := invert_cases matrix
    · exact given
    · exact absurd singular regular
  · intro inverse
    constructor
    · rintro ⟨outcome, reaches, rfl⟩
      exact reaches.ofOutcome_eq
    · rintro rfl
      exact ⟨_, reaches_run matrix le_rfl, invert_eq_ofOutcome⟩

/-- Three of the four entries could be the first pivot. -/
def tied : Table ℚ 2 2 := .ofFn ![![0, 2], ![2, 2]]

theorem invert_exact_tied :
    tied.toMatrix.det ≠ 0 ∧ tied.toMatrix * (invert tied).matrix.toMatrix = 1 ∧
      (invert tied).matrix.toMatrix * tied.toMatrix = 1 := by
  have regular : tied.toMatrix.det ≠ 0 := by
    simp [Matrix.det_fin_two, tied]
  exact ⟨regular, (invert_exact tied).2.1 regular⟩

end OpticTune.Linear
