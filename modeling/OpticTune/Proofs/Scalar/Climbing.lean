import OpticTune.Proofs.Scalar.Double
import OpticTune.Proofs.Scalar.Extended

namespace OpticTune.Double

open Scalar (grown)

/-! How a double grows under a factor above one.

A product of a small double may be rounded back to it, and then no number of
multiplications takes it any further. Where one multiplication makes it larger,
every larger double grows as well; and as there are fewer than `2 ^ 63` doubles
without a sign, all of those reach any ceiling.
-/

/-- One multiplication reaches the ceiling, or at least makes the double larger. -/
def Climbs (factor ceiling x : Float) : Prop :=
  ceiling ≤ x * factor ∨ x < x * factor

instance (factor ceiling x : Float) : Decidable (Climbs factor ceiling x) :=
  inferInstanceAs (Decidable (_ ∨ _))

variable {factor ceiling x y : Float} {c p q : WithTop ℚ} {b : ℚ} {m n : ℕ} {e f : ℤ}

/-- The least double with all of its digits. -/
def leastNormal : Float :=
  Float.ofBits 0x0010000000000000

example : leastNormal = 2.2250738585072014e-308 := by decide +kernel

theorem value_leastNormal : value leastNormal = some ((2 ^ (-1022 : ℤ) : ℚ) : WithTop ℚ) := by
  change some ((((2 ^ 52 : ℕ) : ℚ) * 2 ^ (-1074 : ℤ) : ℚ) : WithTop ℚ) = _
  rw [Nat.cast_pow, Nat.cast_ofNat, ← zpow_natCast, ← zpow_add₀ two_ne_zero]
  rfl

/-- The next double above one is larger by a unit in its last place. -/
theorem Canonical.next_le (canonical : Canonical m e) (large : (1 : ℚ) < m * 2 ^ e) :
    1 + 1 / 2 ^ 52 ≤ (m : ℚ) * 2 ^ e := by
  have room : 0 < e + 53 := by
    by_contra small
    have below : (2 : ℚ) ^ (e + 53) ≤ 2 ^ (0 : ℤ) := zpow_le_zpow_right₀ one_le_two (by omega)
    exact (large.trans canonical.lt).not_ge (below.trans_eq (zpow_zero 2))
  obtain ⟨k, place⟩ : ∃ k : ℕ, (k : ℤ) = e + 52 := ⟨(e + 52).toNat, by omega⟩
  have scaled : (m : ℚ) * 2 ^ e * 2 ^ 52 = ((m * 2 ^ k : ℕ) : ℚ) := by
    rw [mul_assoc, ← zpow_natCast (2 : ℚ) 52, ← zpow_add₀ two_ne_zero, Nat.cast_ofNat, ← place,
      zpow_natCast]
    push_cast
    rfl
  have above : 2 ^ 52 + 1 ≤ m * 2 ^ k := by
    have : ((2 ^ 52 : ℕ) : ℚ) < (m * 2 ^ k : ℕ) := by
      rw [← scaled]
      push_cast
      linarith
    exact_mod_cast this
  have whole : (2 : ℚ) ^ 52 + 1 ≤ m * 2 ^ e * 2 ^ 52 := by
    rw [scaled]
    exact_mod_cast above
  linarith

/-- A factor above one is infinite, or larger by a unit in its last place. -/
theorem factor_cases (grows : 1.0 < factor) :
    value factor = some ⊤ ∨ ∃ b : ℚ, value factor = some (b : WithTop ℚ) ∧ 1 + 1 / 2 ^ 52 ≤ b := by
  obtain ⟨b, read, large⟩ := exists_value_of_lt value_one grows
  cases b with
  | top => exact .inl read
  | coe b =>
      obtain ⟨m, e, canonical, -, rfl⟩ := exists_canonical read
      exact .inr ⟨_, read, canonical.next_le (WithTop.one_lt_coe.mp large)⟩

/-- The product of a double of all digits is past the middle above it. -/
theorem past_half_of_digits (digits : 2 ^ 52 ≤ m) (e : ℤ) (large : 1 + 1 / 2 ^ 52 ≤ b) :
    ((m : ℚ) + 1 / 2) * 2 ^ e < m * 2 ^ e * b := by
  have whole : (2 : ℚ) ^ 52 ≤ m := by exact_mod_cast digits
  have excess : (2 : ℚ) ^ 52 * (1 / 2 ^ 52) ≤ m * (b - 1) :=
    mul_le_mul whole (by linarith) (by positivity) (by positivity)
  have enough : (m : ℚ) + 1 / 2 < m * b := by
    rw [mul_one_div_cancel (by positivity)] at excess
    linarith
  calc ((m : ℚ) + 1 / 2) * 2 ^ e < m * b * 2 ^ e := mul_lt_mul_of_pos_right enough (two_zpow_pos e)
    _ = m * 2 ^ e * b := by ring

/-- The middle above a double is passed by the products of all larger doubles, if
it is reached by the double's own. -/
theorem Canonical.past_half (canonical : Canonical m e) (other : Canonical n f)
    (below : (m : ℚ) * 2 ^ e < n * 2 ^ f) (large : 1 + 1 / 2 ^ 52 ≤ b)
    (reached : ((m : ℚ) + 1 / 2) * 2 ^ e ≤ m * 2 ^ e * b) :
    ((n : ℚ) + 1 / 2) * 2 ^ f < n * 2 ^ f * b := by
  rcases other.full with rfl | digits
  · have unit := two_zpow_pos (-1074)
    have same : e = -1074 := le_antisymm
      (not_lt.mp fun above => below.not_gt (other.lt_of_lt canonical above)) canonical.least
    rw [same] at below reached
    have fewer : (m : ℚ) < n := lt_of_mul_lt_mul_right below unit.le
    have half : (m : ℚ) + 1 / 2 ≤ m * b :=
      le_of_mul_le_mul_right (reached.trans_eq (by ring)) unit
    have more : (m : ℚ) * (b - 1) < n * (b - 1) :=
      mul_lt_mul_of_pos_right fewer (by linarith [show (0 : ℚ) < 1 / 2 ^ 52 by positivity])
    calc ((n : ℚ) + 1 / 2) * 2 ^ (-1074 : ℤ) < n * b * 2 ^ (-1074 : ℤ) :=
          mul_lt_mul_of_pos_right (by linarith) unit
      _ = n * 2 ^ (-1074 : ℤ) * b := by ring
  · exact past_half_of_digits digits f large

/-- The step for numbers: what holds of one double holds of all larger ones. -/
theorem Canonical.climbs_mono (canonical : Canonical m e) (small : e ≤ 971)
    (other : Canonical n f) (otherSmall : f ≤ 971) (ordered : (m : ℚ) * 2 ^ e ≤ n * 2 ^ f)
    (large : 1 + 1 / 2 ^ 52 ≤ b)
    (climbs : c ≤ machine (m * 2 ^ e * b) ∨ ((m * 2 ^ e : ℚ) : WithTop ℚ) < machine (m * 2 ^ e * b)) :
    c ≤ machine (n * 2 ^ f * b) ∨ ((n * 2 ^ f : ℚ) : WithTop ℚ) < machine (n * 2 ^ f * b) := by
  have nonneg : 0 ≤ b := by linarith [show (0 : ℚ) ≤ 1 / 2 ^ 52 by positivity]
  rcases climbs with reached | larger
  · refine .inl (reached.trans (machine_mono (by positivity) ?_))
    exact mul_le_mul_of_nonneg_right ordered nonneg
  · rcases ordered.eq_or_lt with same | below
    · rw [← same]
      exact .inr larger
    · rw [coe_lt_machine_iff (canonical.lt_large_iff.mpr small)] at larger
      have reached := canonical.half_le (by positivity) larger
      refine .inr ((coe_lt_machine_iff (other.lt_large_iff.mpr otherSmall)).mpr ?_)
      exact other.lt_rounded (canonical.past_half other below large reached)

/-- The place of a double among those without a sign. -/
def rank (m : ℕ) (e : ℤ) : ℕ :=
  (e + 1074).toNat * 2 ^ 52 + m

theorem Canonical.rank_lt (canonical : Canonical m e) (small : e ≤ 971) : rank m e < 2 ^ 63 := by
  have digits := canonical.digits
  unfold rank
  omega

theorem Canonical.rank_lt_rank (canonical : Canonical m e) (other : Canonical n f)
    (below : (m : ℚ) * 2 ^ e < n * 2 ^ f) : rank m e < rank n f := by
  have digits := canonical.digits
  have least := canonical.least
  have ordered : e ≤ f := not_lt.mp fun above => below.not_gt (other.lt_of_lt canonical above)
  unfold rank
  rcases ordered.eq_or_lt with rfl | apart
  · have fewer : m < n := by exact_mod_cast lt_of_mul_lt_mul_right below (two_zpow_pos e).le
    omega
  · have whole := other.full.resolve_left (by omega)
    omega

theorem climbs_of_top (bound : value ceiling = some c) (product : value (x * factor) = some ⊤) :
    Climbs factor ceiling x :=
  .inl ((le_iff bound product).mpr le_top)

/-- What is not a number, and what does not climb. -/
inductive Stalls (factor ceiling x : Float) : Prop where
  | nan (nan : x.toModel.unpack = .notANumber)
  | stands {p : WithTop ℚ} (read : value x = some p) (stays : ¬ Climbs factor ceiling x)

section Bounded

variable (grows : 1.0 < factor)

include grows

/-- The product of zero and an infinite factor is not a number, any other has a
value. -/
theorem product_cases (read : value x = some p) :
    p = 0 ∧ (x * factor).toModel.unpack = .notANumber ∨
      0 < p ∧ value (x * factor) = some ⊤ ∨
      ∃ m e b, Canonical m e ∧ e ≤ 971 ∧ p = ((m * 2 ^ e : ℚ) : WithTop ℚ) ∧
        value factor = some ((b : ℚ) : WithTop ℚ) ∧ 1 + 1 / 2 ^ 52 ≤ b ∧
        value (x * factor) = some (machine (m * 2 ^ e * b)) := by
  rcases factor_cases grows with infinite | ⟨b, readFactor, large⟩
  · rcases (value_nonneg read).eq_or_lt with rfl | positive
    · exact .inl ⟨rfl, zero_mul_top read infinite⟩
    · exact .inr (.inl ⟨positive, value_mul_top read positive infinite⟩)
  cases p with
  | top =>
      have positive : (0 : WithTop ℚ) < b := WithTop.coe_pos.mpr (by
        linarith [show (0 : ℚ) < 1 / 2 ^ 52 by positivity])
      exact .inr (.inl ⟨WithTop.coe_lt_top 0, value_top_mul read readFactor positive⟩)
  | coe p =>
      obtain ⟨m, e, canonical, small, rfl⟩ := exists_canonical read
      exact .inr (.inr ⟨m, e, b, canonical, small, rfl, readFactor, large, value_mul read readFactor⟩)

variable (bound : value ceiling = some c)

include bound

/-- Below the least normal double a product may be rounded back, above it is not. -/
theorem climbs_of_normal (normal : leastNormal ≤ x) : Climbs factor ceiling x := by
  obtain ⟨p, read, above⟩ := exists_value_of_le value_leastNormal normal
  have positive : 0 < p := (WithTop.coe_pos.mpr (two_zpow_pos (-1022))).trans_le above
  rcases product_cases grows read with ⟨rfl, -⟩ | ⟨-, product⟩ |
    ⟨m, e, b, canonical, small, rfl, -, large, product⟩
  · exact absurd positive (lt_irrefl 0)
  · exact climbs_of_top bound product
  · have digits : 2 ^ 52 ≤ m := by
      rcases canonical.full with rfl | digits
      · have scaled : (2 : ℚ) ^ (52 : ℤ) * 2 ^ (-1074 : ℤ) ≤ m * 2 ^ (-1074 : ℤ) := by
          rw [← zpow_add₀ two_ne_zero]
          exact WithTop.coe_le_coe.mp above
        exact_mod_cast le_of_mul_le_mul_right scaled (two_zpow_pos _)
      · exact digits
    refine .inr ((lt_iff read product).mpr ?_)
    rw [coe_lt_machine_iff (canonical.lt_large_iff.mpr small)]
    exact canonical.lt_rounded (past_half_of_digits digits e large)

variable (high : 0 < c)

include high

/-- Zero does not climb. -/
theorem Climbs.pos (climbs : Climbs factor ceiling x) (read : value x = some p) : 0 < p := by
  refine (value_nonneg read).lt_of_ne fun zero => ?_
  subst zero
  rcases product_cases grows read with ⟨-, nan⟩ | ⟨positive, -⟩ |
    ⟨m, e, b, -, -, zero, -, -, product⟩
  · rcases climbs with reached | larger
    · exact not_le_of_nan nan reached
    · exact not_le_of_nan nan (Double.le_of_lt larger)
  · exact lt_irrefl 0 positive
  · rw [← WithTop.coe_zero, WithTop.coe_eq_coe] at zero
    rw [← zero, zero_mul, machine_zero] at product
    rcases climbs with reached | larger
    · exact high.not_ge ((le_iff bound product).mp reached)
    · exact lt_irrefl 0 ((lt_iff read product).mp larger)

theorem Climbs.mono (climbs : Climbs factor ceiling x) (read : value x = some p)
    (ordered : x ≤ y) : Climbs factor ceiling y := by
  have positive := climbs.pos grows bound high read
  obtain ⟨q, readOther, below⟩ := exists_value_of_le read ordered
  rcases product_cases grows readOther with ⟨rfl, -⟩ | ⟨-, otherProduct⟩ |
    ⟨n, f, b, other, otherSmall, rfl, readFactor, large, otherProduct⟩
  · exact absurd (positive.trans_le below) (lt_irrefl 0)
  · exact climbs_of_top bound otherProduct
  · lift p to ℚ using (below.trans_lt (WithTop.coe_lt_top _)).ne
    obtain ⟨m, e, canonical, small, rfl⟩ := exists_canonical read
    have product := value_mul read readFactor
    rw [Climbs, le_iff bound product, lt_iff read product] at climbs
    rw [Climbs, le_iff bound otherProduct, lt_iff readOther otherProduct]
    exact canonical.climbs_mono small other otherSmall (WithTop.coe_le_coe.mp below) large climbs

/-- What climbs is never taken below where it was. -/
theorem Climbs.le_grown (climbs : Climbs factor ceiling x) (read : value x = some p) (count : ℕ) :
    x ≤ grown x factor count := by
  induction count with
  | zero => exact (le_iff read read).mpr le_rfl
  | succ count ih =>
      obtain ⟨q, reached, below⟩ := exists_value_of_le read ih
      have positive := climbs.pos grows bound high read
      rw [Scalar.grown_succ]
      refine le_trans_of_value read ih ?_
      rcases product_cases grows reached with ⟨rfl, -⟩ | ⟨-, product⟩ |
        ⟨m, e, b, -, -, -, readFactor, large, -⟩
      · exact absurd (positive.trans_le below) (lt_irrefl 0)
      · exact (le_iff reached product).mpr le_top
      · have excess : (0 : ℚ) < 1 / 2 ^ 52 := by positivity
        exact le_product readFactor (by linarith) (by linarith) reached

/-- What stalls does so for good. -/
theorem Stalls.step (stalls : Stalls factor ceiling x) :
    ¬ ceiling ≤ x * factor ∧ Stalls factor ceiling (x * factor) := by
  cases stalls with
  | nan nan =>
      have further := nan_mul nan factor
      exact ⟨not_le_of_nan further, .nan further⟩
  | @stands p read stays =>
      refine ⟨fun reached => stays (.inl reached), ?_⟩
      have settled {q : WithTop ℚ} (product : value (x * factor) = some q) :
          Stalls factor ceiling (x * factor) := by
        refine .stands product fun climbs => stays (climbs.mono grows bound high product ?_)
        rw [le_iff product read]
        exact not_lt.mp fun larger => stays (.inr ((lt_iff read product).mpr larger))
      rcases product_cases grows read with ⟨-, nan⟩ | ⟨-, product⟩ | ⟨_, _, _, _, _, _, _, _, product⟩
      · exact .nan nan
      · exact settled product
      · exact settled product

theorem Stalls.not_reached (stalls : Stalls factor ceiling x) (count : ℕ) :
    ¬ ceiling ≤ grown x factor (count + 1) := by
  induction count generalizing x with
  | zero => exact (stalls.step grows bound high).1
  | succ count ih => exact ih (stalls.step grows bound high).2

theorem Climbs.reaches_within {room : ℕ} (canonical : Canonical m e) (small : e ≤ 971)
    (enough : 2 ^ 63 ≤ rank m e + room) (read : value x = some ((m * 2 ^ e : ℚ) : WithTop ℚ))
    (climbs : Climbs factor ceiling x) :
    ∃ count < room, ceiling ≤ grown x factor (count + 1) := by
  induction room generalizing x m e with
  | zero =>
      have last := canonical.rank_lt small
      omega
  | succ room ih =>
      have step := climbs
      rcases step with reached | larger
      · exact ⟨0, Nat.succ_pos _, reached⟩
      · obtain ⟨q, product, above⟩ := exists_value_of_lt read larger
        cases q with
        | top => exact ⟨0, Nat.succ_pos _, (le_iff bound product).mpr le_top⟩
        | coe q =>
            obtain ⟨n, f, other, otherSmall, rfl⟩ := exists_canonical product
            have further := canonical.rank_lt_rank other (WithTop.coe_lt_coe.mp above)
            have next := climbs.mono grows bound high read (Double.le_of_lt larger)
            obtain ⟨count, within, reached⟩ := ih other otherSmall (by omega) product next
            exact ⟨count + 1, Nat.succ_lt_succ within, reached⟩

/-- What climbs reaches the ceiling before all doubles have been passed. -/
theorem Climbs.reaches (climbs : Climbs factor ceiling x) (read : value x = some p) :
    ∃ count < 2 ^ 63, ceiling ≤ grown x factor (count + 1) := by
  rcases product_cases grows read with ⟨rfl, -⟩ | ⟨-, product⟩ |
    ⟨m, e, b, canonical, small, rfl, -, -, -⟩
  · exact absurd (climbs.pos grows bound high read) (lt_irrefl 0)
  · exact ⟨0, by norm_num, (le_iff bound product).mpr le_top⟩
  · exact climbs.reaches_within grows bound high canonical small (Nat.le_add_left _ _) read

/-- To climb is to be taken to the ceiling by some number of multiplications. -/
theorem climbs_iff (read : value x = some p) :
    Climbs factor ceiling x ↔ ∃ count, ceiling ≤ grown x factor (count + 1) := by
  constructor
  · intro climbs
    obtain ⟨count, -, reached⟩ := climbs.reaches grows bound high read
    exact ⟨count, reached⟩
  · rintro ⟨count, reached⟩
    by_contra stays
    exact (Stalls.stands read stays).not_reached grows bound high count reached

end Bounded

end OpticTune.Double
