import OpticTune.Proofs.Scalar.Packing

namespace OpticTune.Double

open Float.Model (Format UnpackedFloat totalExponent)
open Float.Model.UnpackedFloat

/-! Doubles as rational numbers.

A double without a sign stands for a number, or for infinity. Comparisons are those
of the numbers, and a product is the exact product, rounded once; what is past the
largest double is infinite.
-/

section Reading

/-- The number a double stands for, if it has no sign and is one; `⊤` is the
infinite one. -/
def reading : UnpackedFloat → Option (WithTop ℚ)
  | .zero _ => some 0
  | .finite .positive m e _ => some ((m * 2 ^ e : ℚ) : WithTop ℚ)
  | .infinity .positive => some ⊤
  | _ => none

def value (x : Float) : Option (WithTop ℚ) :=
  reading x.toModel.unpack

variable {x y : Float} {p q : WithTop ℚ} {u v : UnpackedFloat} {m n : ℕ} {e f : ℤ}

theorem reading_ofParts (m : ℕ) (e : ℤ) :
    reading (ofParts .positive m e) = some ((m * 2 ^ e : ℚ) : WithTop ℚ) := by
  rcases Nat.eq_zero_or_pos m with rfl | positive
  · simp [ofParts_zero, reading]
  · rw [ofParts_of_pos positive]
    rfl

/-- What a double is that stands for a number. -/
inductive StandsFor : UnpackedFloat → WithTop ℚ → Prop where
  | zero (sign : Sign) : StandsFor (.zero sign) 0
  | finite {m : ℕ} {e : ℤ} (positive : 0 < m) (canonical : Canonical m e) (small : e ≤ 971) :
      StandsFor (.finite .positive m e positive) (m * 2 ^ e : ℚ)
  | infinity : StandsFor (.infinity .positive) ⊤

theorem standsFor_of_value (read : value x = some q) : StandsFor x.toModel.unpack q := by
  unfold value at read
  rcases unpack_cases x.toModel.toBits.toBitVec with nan | ⟨sign, infinite⟩ |
    ⟨sign, m, e, canonical, small, finite⟩
  · rw [show x.toModel.unpack = .notANumber from nan] at read
    contradiction
  · rw [show x.toModel.unpack = .infinity sign from infinite] at read ⊢
    cases sign with
    | negative => contradiction
    | positive =>
        cases Option.some.inj read
        exact .infinity
  · rw [show x.toModel.unpack = ofParts sign m e from finite] at read ⊢
    rcases Nat.eq_zero_or_pos m with rfl | positive
    · cases Option.some.inj read
      exact .zero sign
    · rw [ofParts_of_pos positive] at read ⊢
      cases sign with
      | negative => contradiction
      | positive =>
          cases Option.some.inj read
          exact .finite positive canonical small

theorem StandsFor.nonneg (stands : StandsFor u q) : 0 ≤ q := by
  cases stands with
  | zero => exact le_rfl
  | finite => exact WithTop.coe_nonneg.mpr (by positivity)
  | infinity => exact le_top

theorem value_nonneg (read : value x = some q) : 0 ≤ q :=
  (standsFor_of_value read).nonneg

theorem StandsFor.eq_of_finite {number : ℚ} (stands : StandsFor u number) :
    (∃ sign, u = .zero sign ∧ number = 0) ∨
      ∃ m e positive, Canonical m e ∧ e ≤ 971 ∧ u = .finite .positive m e positive ∧
        number = m * 2 ^ e := by
  obtain ⟨wide, same⟩ : ∃ wide : WithTop ℚ, wide = number := ⟨_, rfl⟩
  rw [← same] at stands
  cases stands with
  | zero sign => exact .inl ⟨sign, rfl, WithTop.coe_eq_zero.mp same.symm⟩
  | finite positive canonical small =>
      exact .inr ⟨_, _, positive, canonical, small, rfl, (WithTop.coe_injective same).symm⟩
  | infinity => exact absurd same WithTop.top_ne_coe

theorem StandsFor.eq_of_top (stands : StandsFor u ⊤) : u = .infinity .positive := by
  obtain ⟨wide, same⟩ : ∃ wide : WithTop ℚ, wide = ⊤ := ⟨_, rfl⟩
  rw [← same] at stands
  cases stands with
  | zero => exact absurd same WithTop.zero_ne_top
  | finite => exact absurd same WithTop.coe_ne_top
  | infinity => rfl

theorem exists_canonical {number : ℚ} (read : value x = some number) :
    ∃ m e, Canonical m e ∧ e ≤ 971 ∧ number = m * 2 ^ e := by
  rcases (standsFor_of_value read).eq_of_finite with ⟨_, _, rfl⟩ |
    ⟨m, e, _, canonical, small, _, rfl⟩
  · exact ⟨0, -1074, ⟨by norm_num, le_rfl, .inl rfl⟩, by norm_num, by simp⟩
  · exact ⟨m, e, canonical, small, rfl⟩

/-- Of two doubles of full digits the one with the larger exponent is larger. -/
theorem Canonical.lt_of_lt (canonical : Canonical m e) (larger : Canonical n f) (apart : e < f) :
    (m : ℚ) * 2 ^ e < n * 2 ^ f := by
  have least := canonical.least
  calc (m : ℚ) * 2 ^ e < 2 ^ (e + 53) := canonical.lt
    _ ≤ 2 ^ (f + 52) := zpow_le_zpow_right₀ one_le_two (by omega)
    _ ≤ n * 2 ^ f := larger.le (by omega)

theorem Canonical.compares (canonical : Canonical m e) (other : Canonical n f) :
    ((compare e f).then (compare m n)).Compares ((m : ℚ) * 2 ^ e) (n * 2 ^ f) := by
  rcases lt_trichotomy e f with below | rfl | above
  · rw [compare_lt_iff_lt.mpr below]
    exact canonical.lt_of_lt other below
  · rw [compare_eq_iff_eq.mpr rfl, Ordering.eq_then]
    have unit := two_zpow_pos e
    rcases lt_trichotomy m n with below | rfl | above
    · rw [compare_lt_iff_lt.mpr below]
      exact mul_lt_mul_of_pos_right (by exact_mod_cast below) unit
    · rw [compare_eq_iff_eq.mpr rfl]
      exact rfl
    · rw [compare_gt_iff_gt.mpr above]
      exact mul_lt_mul_of_pos_right (by exact_mod_cast above) unit
  · rw [compare_gt_iff_gt.mpr above]
    exact other.lt_of_lt canonical above

theorem compares_coe {order : Ordering} {p q : ℚ} (compares : order.Compares p q) :
    order.Compares (p : WithTop ℚ) q := by
  cases order with
  | lt | gt => exact WithTop.coe_lt_coe.mpr compares
  | eq => exact congrArg _ compares

theorem StandsFor.compares (left : StandsFor u p) (right : StandsFor v q) :
    ∃ order : Ordering, u.compare v = some order ∧ order.Compares p q := by
  have above {m : ℕ} (positive : 0 < m) (e : ℤ) : (0 : WithTop ℚ) < (m * 2 ^ e : ℚ) :=
    WithTop.coe_pos.mpr (mul_pos (by exact_mod_cast positive) (two_zpow_pos e))
  cases left with
  | zero =>
      cases right with
      | zero => exact ⟨_, rfl, rfl⟩
      | finite positive => exact ⟨_, rfl, above positive _⟩
      | infinity => exact ⟨_, rfl, WithTop.coe_lt_top 0⟩
  | finite positive canonical =>
      cases right with
      | zero => exact ⟨_, rfl, above positive _⟩
      | finite _ other =>
          exact ⟨_, rfl, compares_coe (canonical.compares other)⟩
      | infinity => exact ⟨_, rfl, WithTop.coe_lt_top _⟩
  | infinity =>
      cases right with
      | zero => exact ⟨_, rfl, WithTop.coe_lt_top 0⟩
      | finite => exact ⟨_, rfl, WithTop.coe_lt_top _⟩
      | infinity => exact ⟨_, rfl, rfl⟩

theorem le_iff_unpack (x y : Float) : x ≤ y ↔ x.toModel.unpack.le y.toModel.unpack = true :=
  ⟨of_decide_eq_true, decide_eq_true⟩

theorem lt_iff_unpack (x y : Float) : x < y ↔ x.toModel.unpack.lt y.toModel.unpack = true :=
  ⟨of_decide_eq_true, decide_eq_true⟩

theorem le_iff (left : value x = some p) (right : value y = some q) : x ≤ y ↔ p ≤ q := by
  obtain ⟨order, compared, compares⟩ := (standsFor_of_value left).compares (standsFor_of_value right)
  rw [le_iff_unpack, UnpackedFloat.le, compared, ← compares.ne_gt]
  cases order <;> simp

theorem lt_iff (left : value x = some p) (right : value y = some q) : x < y ↔ p < q := by
  obtain ⟨order, compared, compares⟩ := (standsFor_of_value left).compares (standsFor_of_value right)
  rw [lt_iff_unpack, UnpackedFloat.lt, compared, ← compares.eq_lt]
  cases order <;> simp

/-- A number above zero is that of a single double. -/
theorem StandsFor.unique (left : StandsFor u q) (right : StandsFor v q) (positive : 0 < q) :
    u = v := by
  cases left with
  | zero => exact absurd positive (lt_irrefl 0)
  | infinity => exact right.eq_of_top.symm
  | @finite m e above canonical small =>
      rcases right.eq_of_finite with ⟨_, _, zero⟩ | ⟨n, f, _, other, -, rfl, same⟩
      · exact absurd zero (mul_pos (by exact_mod_cast above) (two_zpow_pos e)).ne'
      · have compares := canonical.compares other
        rw [same] at compares
        have equal := compares.eq_eq.mpr rfl
        obtain ⟨exponents, mantissas⟩ := Ordering.then_eq_eq.mp equal
        obtain rfl := compare_eq_iff_eq.mp exponents
        obtain rfl := compare_eq_iff_eq.mp mantissas
        rfl

theorem eq_of_value (left : value x = some q) (right : value y = some q) (positive : 0 < q) :
    x = y := by
  have unpacked := (standsFor_of_value left).unique (standsFor_of_value right) positive
  obtain ⟨⟨bits, valid⟩⟩ := x
  obtain ⟨⟨others, otherValid⟩⟩ := y
  have same : bits = others := UInt64.toBitVec_inj.mp
    ((unpack_inj_of_valid valid otherValid).mp unpacked)
  subst same
  rfl

theorem StandsFor.isSome_of_le (stands : StandsFor u p) (above : u.le v = true) :
    (reading v).isSome := by
  cases stands <;> cases v with
  | notANumber => exact absurd above Bool.false_ne_true
  | zero => rfl
  | infinity sign | finite sign =>
      cases sign with
      | negative => exact absurd above Bool.false_ne_true
      | positive => rfl

/-- What is not below a double that stands for a number stands for one as well. -/
theorem exists_value_of_le (left : value x = some p) (above : x ≤ y) :
    ∃ q, value y = some q ∧ p ≤ q := by
  have readable := (standsFor_of_value left).isSome_of_le ((le_iff_unpack x y).mp above)
  obtain ⟨q, read⟩ := Option.isSome_iff_exists.mp readable
  exact ⟨q, read, (le_iff left read).mp above⟩

protected theorem le_of_lt (below : x < y) : x ≤ y := by
  rw [lt_iff_unpack, UnpackedFloat.lt, beq_iff_eq] at below
  rw [le_iff_unpack, UnpackedFloat.le, below]
  rfl

theorem le_trans_of_value (left : value x = some p) {z : Float} (first : x ≤ y) (second : y ≤ z) :
    x ≤ z := by
  obtain ⟨q, middle, below⟩ := exists_value_of_le left first
  obtain ⟨r, right, further⟩ := exists_value_of_le middle second
  exact (le_iff left right).mpr (below.trans further)

theorem exists_value_of_lt (left : value x = some p) (above : x < y) :
    ∃ q, value y = some q ∧ p < q := by
  obtain ⟨q, read, -⟩ := exists_value_of_le left (Double.le_of_lt above)
  exact ⟨q, read, (lt_iff left read).mp above⟩

theorem value_zero : value 0.0 = some 0 :=
  rfl

theorem value_one : value 1.0 = some 1 := by
  change some ((((2 ^ 52 : ℕ) : ℚ) * 2 ^ (-52 : ℤ) : ℚ) : WithTop ℚ) = some 1
  norm_num

end Reading

section Products

variable {x y : Float} {p q : ℚ} {m n : ℕ} {e f : ℤ}

theorem Canonical.lt_large_iff (canonical : Canonical m e) :
    (m : ℚ) * 2 ^ e < 2 ^ 1024 ↔ e ≤ 971 := by
  have power : (2 : ℚ) ^ 1024 = 2 ^ (1024 : ℤ) := (zpow_natCast 2 1024).symm
  rw [power]
  constructor
  · intro small
    by_contra large
    refine small.not_ge ((zpow_le_zpow_right₀ one_le_two ?_).trans (canonical.le (by omega)))
    omega
  · intro small
    exact canonical.lt.trans_le (zpow_le_zpow_right₀ one_le_two (by omega))

theorem unpack_mul (x y : Float) :
    (x * y).toModel.unpack = stored (mul Format.binary64 x.toModel.unpack y.toModel.unpack) :=
  rfl

/-- What rounding leaves is stored without a loss, unless it is too large. -/
theorem reading_roundWithAccuracy (positive : 0 < m) (spare : e ≤ exponent (m * 2 ^ e)) :
    reading (stored (roundWithAccuracy Format.binary64 .positive m e .exact)) =
      some (machine (m * 2 ^ e)) := by
  obtain ⟨m', e', canonical, same, rounded⟩ := roundWithAccuracy_eq .positive positive spare
  rw [rounded, machine, ← same]
  split
  · rename_i small
    rw [stored_ofParts canonical (canonical.lt_large_iff.mp small), reading_ofParts]
  · rename_i large
    rw [stored_large canonical (not_le.mp fun small => large (canonical.lt_large_iff.mpr small))]
    rfl

theorem stored_zero (sign : Sign) : stored (.zero sign) = .zero sign :=
  unpack_packedZero

theorem stored_notANumber : stored .notANumber = .notANumber :=
  unpack_packedNaN

theorem stored_infinity (sign : Sign) : stored (.infinity sign) = .infinity sign := by
  simp [stored, pack, unpack, packedInfinity]

@[simp]
theorem machine_zero : machine 0 = 0 := by
  rw [machine, rounded_zero, if_pos (by positivity)]
  rfl

/-- A number of enough digits, or below all doubles, has digits to spare. -/
theorem le_exponent_of_digits (digits : -1074 < e → 2 ^ 52 ≤ m) :
    e ≤ exponent (m * 2 ^ e) := by
  rcases le_or_gt e (-1074) with low | high
  · exact low.trans (neg_1074_le_exponent _)
  · have whole : (2 : ℚ) ^ 52 ≤ m := by exact_mod_cast digits high
    have bound : (2 : ℚ) ^ (e - 1 + 53) ≤ m * 2 ^ e := by
      rw [show e - 1 + 53 = 52 + e by omega, zpow_add₀ two_ne_zero]
      exact mul_le_mul_of_nonneg_right whole (two_zpow_pos e).le
    have above := (lt_exponent_iff ((two_zpow_pos _).trans_le bound) (by omega)).mpr bound
    omega

theorem Canonical.digits_mul (canonical : Canonical m e) (other : Canonical n f) (positive : 0 < m)
    (otherPositive : 0 < n) (large : -1074 < e + f) : 2 ^ 52 ≤ m * n := by
  have least := canonical.least
  have otherLeast := other.least
  rcases canonical.full with low | whole
  · exact (other.full.resolve_left (by omega)).trans (Nat.le_mul_of_pos_left n positive)
  · exact whole.trans (Nat.le_mul_of_pos_right m otherPositive)

/-- A product is the exact product, rounded once. -/
theorem value_mul (left : value x = some p) (right : value y = some q) :
    value (x * y) = some (machine (p * q)) := by
  rw [value, unpack_mul]
  rcases (standsFor_of_value left).eq_of_finite with ⟨sign, isZero, rfl⟩ |
    ⟨m, e, positive, canonical, -, isFinite, rfl⟩ <;>
  rcases (standsFor_of_value right).eq_of_finite with ⟨otherSign, otherZero, rfl⟩ |
    ⟨n, f, otherPositive, other, -, otherFinite, rfl⟩
  · rw [isZero, otherZero, mul_zero, machine_zero]
    exact congrArg reading (stored_zero _)
  · rw [isZero, otherFinite, zero_mul, machine_zero]
    exact congrArg reading (stored_zero _)
  · rw [isFinite, otherZero, mul_zero, machine_zero]
    exact congrArg reading (stored_zero _)
  · rw [isFinite, otherFinite]
    have product := reading_roundWithAccuracy (Nat.mul_pos positive otherPositive)
      (le_exponent_of_digits (canonical.digits_mul other positive otherPositive))
    have parts : ((m * n : ℕ) : ℚ) * 2 ^ (e + f) = m * 2 ^ e * (n * 2 ^ f) := by
      rw [zpow_add₀ two_ne_zero]
      push_cast
      ring
    rw [parts] at product
    exact product

theorem StandsFor.mul_infinity {u : UnpackedFloat} {p : WithTop ℚ} (stands : StandsFor u p)
    (positive : 0 < p) :
    mul Format.binary64 u (.infinity .positive) = .infinity .positive ∧
      mul Format.binary64 (.infinity .positive) u = .infinity .positive := by
  cases stands with
  | zero => exact absurd positive (lt_irrefl 0)
  | finite => exact ⟨rfl, rfl⟩
  | infinity => exact ⟨rfl, rfl⟩

theorem value_mul_top {p : WithTop ℚ} (left : value x = some p) (positive : 0 < p)
    (right : value y = some ⊤) : value (x * y) = some ⊤ := by
  rw [value, unpack_mul, (standsFor_of_value right).eq_of_top,
    ((standsFor_of_value left).mul_infinity positive).1, stored_infinity]
  rfl

theorem value_top_mul {q : WithTop ℚ} (left : value x = some ⊤) (right : value y = some q)
    (positive : 0 < q) : value (x * y) = some ⊤ := by
  rw [value, unpack_mul, (standsFor_of_value left).eq_of_top,
    ((standsFor_of_value right).mul_infinity positive).2, stored_infinity]
  rfl

theorem Canonical.machine_eq (canonical : Canonical m e) (small : e ≤ 971) :
    machine (m * 2 ^ e) = ((m * 2 ^ e : ℚ) : WithTop ℚ) := by
  rw [machine, canonical.rounded_eq, if_pos (canonical.lt_large_iff.mpr small)]

section Factor

variable {factor : Float} {b : ℚ} {p : WithTop ℚ} (readFactor : value factor = some (b : WithTop ℚ))
  (positive : 0 < b)

include readFactor positive

/-- A finite factor keeps the order. -/
theorem product_mono (left : value x = some p) (ordered : x ≤ y) : x * factor ≤ y * factor := by
  obtain ⟨q, right, below⟩ := exists_value_of_le left ordered
  have above : (0 : WithTop ℚ) < b := WithTop.coe_pos.mpr positive
  cases q with
  | top =>
      have product := value_top_mul right readFactor above
      cases p with
      | top => exact (le_iff (value_top_mul left readFactor above) product).mpr le_rfl
      | coe p => exact (le_iff (value_mul left readFactor) product).mpr le_top
  | coe q =>
      lift p to ℚ using (below.trans_lt (WithTop.coe_lt_top q)).ne
      refine (le_iff (value_mul left readFactor) (value_mul right readFactor)).mpr ?_
      have nonneg : 0 ≤ p := WithTop.coe_nonneg.mp (value_nonneg left)
      exact machine_mono (mul_nonneg nonneg positive.le)
        (mul_le_mul_of_nonneg_right (WithTop.coe_le_coe.mp below) positive.le)

/-- A factor of at most one makes no double larger. -/
theorem product_le (small : b ≤ 1) (read : value x = some p) : x * factor ≤ x := by
  cases p with
  | top =>
      exact (le_iff (value_top_mul read readFactor (WithTop.coe_pos.mpr positive)) read).mpr le_rfl
  | coe p =>
      have nonneg : 0 ≤ p := WithTop.coe_nonneg.mp (value_nonneg read)
      refine (le_iff (value_mul read readFactor) read).mpr ?_
      obtain ⟨m, e, canonical, low, rfl⟩ := exists_canonical read
      exact (machine_mono (mul_nonneg nonneg positive.le)
        (mul_le_of_le_one_right nonneg small)).trans_eq (canonical.machine_eq low)

/-- A factor of at least one makes no double smaller. -/
theorem le_product (large : 1 ≤ b) (read : value x = some p) : x ≤ x * factor := by
  cases p with
  | top =>
      exact (le_iff read (value_top_mul read readFactor (WithTop.coe_pos.mpr positive))).mpr le_rfl
  | coe p =>
      have nonneg : 0 ≤ p := WithTop.coe_nonneg.mp (value_nonneg read)
      refine (le_iff read (value_mul read readFactor)).mpr ?_
      obtain ⟨m, e, canonical, low, rfl⟩ := exists_canonical read
      exact (canonical.machine_eq low).symm.trans_le
        (machine_mono nonneg (le_mul_of_one_le_right nonneg large))

end Factor

/-- What is not a number stays so, and is not above anything. -/
theorem not_le_of_nan (nan : y.toModel.unpack = .notANumber) : ¬ x ≤ y := by
  rw [le_iff_unpack, nan]
  cases x.toModel.unpack with
  | finite sign | infinity sign => cases sign <;> exact Bool.false_ne_true
  | notANumber | zero => exact Bool.false_ne_true

theorem le_self_of_number {u : UnpackedFloat} (number : u ≠ .notANumber) : u.le u = true := by
  cases u with
  | notANumber => exact absurd rfl number
  | finite sign => cases sign <;> simp [UnpackedFloat.le, UnpackedFloat.compare]
  | zero sign | infinity sign => cases sign <;> rfl

/-- Only what is not a number differs from itself. -/
theorem isNaN_eq (x : Float) : Scalar.isNaN x = x.isNaN := by
  have self : x ≤ x ↔ x.isNaN = false := by
    constructor
    · exact fun below => Bool.eq_false_iff.mpr fun nan => not_le_of_nan (isNaN_iff.mp nan) below
    · intro number
      refine (le_iff_unpack x x).mpr (le_self_of_number fun nan => ?_)
      exact Bool.false_ne_true (number.symm.trans (isNaN_iff.mpr nan))
  rw [Scalar.isNaN, ← Bool.not_not x.isNaN]
  congr 1
  rw [Bool.eq_iff_iff, Bool.not_eq_true']
  exact decide_eq_true_iff.trans self

theorem nan_mul (nan : x.toModel.unpack = .notANumber) (y : Float) :
    (x * y).toModel.unpack = .notANumber := by
  rw [unpack_mul, nan]
  exact stored_notANumber

theorem zero_mul_top (left : value x = some 0) (right : value y = some ⊤) :
    (x * y).toModel.unpack = .notANumber := by
  rw [unpack_mul, (standsFor_of_value right).eq_of_top]
  rcases (standsFor_of_value left).eq_of_finite with ⟨sign, isZero, -⟩ |
    ⟨m, e, positive, -, -, -, same⟩
  · rw [isZero]
    exact stored_notANumber
  · have unit := two_zpow_pos e
    have above : (0 : ℚ) < m := by exact_mod_cast positive
    exact absurd same (mul_pos above unit).ne

end Products

end OpticTune.Double
