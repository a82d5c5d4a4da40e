import OpticTune.Log.Text
import OpticTune.Options
import OpticTune.Proofs.Scalar.Double
import OpticTune.Proofs.Solver.Config

namespace OpticTune

/-- Whether a value is legal. What is not a number never is. -/
def Range.Contains {β : Type} [LE β] (range : Range β) (x : β) : Prop :=
  range.low ≤ x ∧ x ≤ range.high

instance {β : Type} [LE β] [DecidableLE β] (range : Range β) (x : β) :
    Decidable (range.Contains x) :=
  inferInstanceAs (Decidable (_ ∧ _))

/-- How a value that is used comes from the one given: a legal one is kept, one
above the range is replaced by the upper end, and all others, be it for not being a
number, by the lower end. -/
structure Range.Clamps {β : Type} [LE β] [LT β] (range : Range β) (given used : β) : Prop where
  legal : range.Contains used
  kept : range.Contains given → used = given
  above : range.high < given → used = range.high
  otherwise : ¬ range.low ≤ given → used = range.low

namespace Options

open Log (Record)
open Solver (Config)

/-! Options that were brought into their ranges.

The upper end is applied first and the lower end last, and either gives way to a
value that is strictly inside only. A value that is not a number therefore comes to
the lower end. What is within its range stays as it is: options that were clamped
once are not clamped again.
-/

variable {σ : Type}

/-- The report on an option, made only if it is outside its range. -/
def reported {β : Type} [LE β] [DecidableLE β] (quantity : β → Quantity Float) (name : String)
    (range : Range β) (given used : β) : List (Record Float) :=
  if range.Contains given then []
  else [.optionClamped name (quantity given) (quantity range.low) (quantity range.high)
    (quantity used)]

theorem reported_of_contains {β : Type} [LE β] [DecidableLE β] {quantity : β → Quantity Float}
    {name : String} {range : Range β} {given used : β} (legal : range.Contains given) :
    reported quantity name range given used = [] :=
  if_pos legal

theorem level_of_mem_reported {β : Type} [LE β] [DecidableLE β] {quantity : β → Quantity Float}
    {name : String} {range : Range β} {given used : β} {record : Record Float}
    (member : record ∈ reported quantity name range given used) : record.level = .warning := by
  unfold reported at member
  split at member
  · contradiction
  · cases List.mem_singleton.mp member
    rfl

section Real

/-- A range of numbers above zero. -/
structure Proper (range : Range Float) : Prop where
  positive : 0.0 < range.low
  ordered : range.low < range.high

theorem proper_stepRange : Proper stepRange :=
  ⟨by decide +kernel, by decide +kernel⟩

theorem proper_toleranceRange : Proper toleranceRange :=
  ⟨by decide +kernel, by decide +kernel⟩

variable {range : Range Float} (proper : Proper range)

theorem not_isNaN_of_contains {x : Float} (legal : range.Contains x) : x.isNaN = false := by
  refine Bool.eq_false_iff.mpr fun nan => ?_
  exact Double.not_le_of_nan (Float.Model.UnpackedFloat.isNaN_iff.mp nan) legal.1

include proper

theorem Proper.exists_values : ∃ l h : WithTop ℚ, Double.value range.low = some l ∧
    Double.value range.high = some h ∧ l < h := by
  obtain ⟨l, low, -⟩ := Double.exists_value_of_lt Double.value_zero proper.positive
  obtain ⟨h, high, ordered⟩ := Double.exists_value_of_lt low proper.ordered
  exact ⟨l, h, low, high, ordered⟩

variable (given : Float)

/-- Only a value strictly above the lower end, and not above the upper one, is kept. -/
theorem Proper.clamped_cases :
    (range.high < given ∧ clamped range given = range.high) ∨
    (range.low < given ∧ ¬ range.high < given ∧ clamped range given = given) ∨
    (¬ range.low < given ∧ ¬ range.high < given ∧ clamped range given = range.low) := by
  simp only [clamped, Scalar.max, Scalar.min, Scalar.lt, decide_eq_true_eq]
  by_cases above : range.high < given
  · left
    rw [if_pos above, if_pos proper.ordered]
    exact ⟨above, rfl⟩
  · right
    rw [if_neg above]
    by_cases inside : range.low < given
    · exact .inl ⟨inside, above, if_pos inside⟩
    · exact .inr ⟨inside, above, if_neg inside⟩

theorem Proper.contains_clamped : range.Contains (clamped range given) := by
  obtain ⟨l, h, low, high, ordered⟩ := proper.exists_values
  have ends : range.low ≤ range.high := Double.le_of_lt proper.ordered
  rcases proper.clamped_cases given with ⟨-, same⟩ | ⟨inside, notAbove, same⟩ | ⟨-, -, same⟩ <;>
    rw [same]
  · exact ⟨ends, (Double.le_iff high high).mpr le_rfl⟩
  · obtain ⟨q, read, -⟩ := Double.exists_value_of_lt low inside
    rw [Double.lt_iff high read, not_lt] at notAbove
    exact ⟨Double.le_of_lt inside, (Double.le_iff read high).mpr notAbove⟩
  · exact ⟨(Double.le_iff low low).mpr le_rfl, ends⟩

variable {given}

/-- The lower end itself is the only legal value that is not kept for being inside. -/
theorem Proper.clamped_eq_self (legal : range.Contains given) : clamped range given = given := by
  obtain ⟨l, h, low, high, -⟩ := proper.exists_values
  have positive := (Double.lt_iff Double.value_zero low).mp proper.positive
  obtain ⟨q, read, above⟩ := Double.exists_value_of_le low legal.1
  have below := (Double.le_iff read high).mp legal.2
  rcases proper.clamped_cases given with ⟨beyond, -⟩ | ⟨-, -, same⟩ | ⟨outside, -, same⟩
  · exact absurd ((Double.lt_iff high read).mp beyond) below.not_gt
  · exact same
  · rw [Double.lt_iff low read, not_lt] at outside
    obtain rfl := le_antisymm above outside
    rw [same]
    exact Double.eq_of_value low read positive

theorem Proper.clamps (given : Float) : range.Clamps given (clamped range given) where
  legal := proper.contains_clamped given
  kept := proper.clamped_eq_self
  above beyond := by
    rcases proper.clamped_cases given with ⟨-, same⟩ | ⟨-, notAbove, -⟩ | ⟨-, notAbove, -⟩
    · exact same
    · exact absurd beyond notAbove
    · exact absurd beyond notAbove
  otherwise outside := by
    obtain ⟨l, h, low, high, ordered⟩ := proper.exists_values
    rcases proper.clamped_cases given with ⟨beyond, -⟩ | ⟨inside, -⟩ | ⟨-, -, same⟩
    · obtain ⟨q, read, above⟩ := Double.exists_value_of_lt high beyond
      exact absurd ((Double.le_iff low read).mpr (ordered.trans above).le) outside
    · exact absurd (Double.le_of_lt inside) outside
    · exact same

/-- Clamping changes exactly what is not legal. -/
theorem Proper.sameValue_iff : sameValue (clamped range given) given = true ↔
    range.Contains given := by
  obtain ⟨l, h, low, high, -⟩ := proper.exists_values
  simp only [sameValue, Scalar.le, Bool.and_eq_true, decide_eq_true_eq]
  constructor
  · rintro ⟨below, above⟩
    have legal := proper.contains_clamped given
    have inside := Double.le_trans_of_value low legal.1 below
    obtain ⟨q, read, -⟩ := Double.exists_value_of_le low inside
    exact ⟨inside, Double.le_trans_of_value read above legal.2⟩
  · intro legal
    rw [proper.clamped_eq_self legal]
    obtain ⟨q, read, -⟩ := Double.exists_value_of_le low legal.1
    exact ⟨(Double.le_iff read read).mpr le_rfl, (Double.le_iff read read).mpr le_rfl⟩

theorem Proper.clampReal_eq (name : String) (given : Float) (before : σ) :
    clampReal name range given before =
      { value := clamped range given, state := before
        log := reported .real name range given (clamped range given) } := by
  unfold clampReal
  by_cases legal : range.Contains given
  · rw [reported_of_contains legal]
    simp only [proper.sameValue_iff.mpr legal]
    rfl
  · have differs : sameValue (clamped range given) given = false :=
      Bool.eq_false_iff.mpr fun same => legal (proper.sameValue_iff.mp same)
    simp only [reported, if_neg legal, differs]
    rfl

end Real

section Count

variable {range : Range ℤ} (ordered : range.low ≤ range.high)

include ordered

theorem clamps_max_min (given : ℤ) :
    range.Clamps given (max range.low (min given range.high)) where
  legal := ⟨le_max_left _ _, max_le ordered (min_le_right _ _)⟩
  kept legal := by rw [min_eq_left legal.2, max_eq_right legal.1]
  above beyond := by rw [min_eq_right beyond.le, max_eq_right ordered]
  otherwise outside := max_eq_left ((min_le_left _ _).trans (not_le.mp outside).le)

theorem clampCount_eq (name : String) (given : ℤ) (before : σ) :
    (clampCount name range given : Act Float σ ℤ) before =
      { value := max range.low (min given range.high), state := before
        log := reported .count name range given (max range.low (min given range.high)) } := by
  have clamps := clamps_max_min ordered given
  unfold clampCount
  by_cases legal : range.Contains given
  · rw [reported_of_contains legal]
    simp only [clamps.kept legal]
    rfl
  · have differs : max range.low (min given range.high) ≠ given := fun same =>
      legal (same ▸ clamps.legal)
    simp only [reported, if_neg legal, differs]
    rfl

end Count

/-- Options that are all legal. -/
structure InRange (options : Options Float) : Prop where
  step : stepRange.Contains options.step
  maxIterations : iterationRange.Contains options.maxIterations
  tolerance : toleranceRange.Contains options.tolerance

theorem ordered_iterationRange : iterationRange.low ≤ iterationRange.high := by
  decide

/-- What the options given come to. -/
def used (step : Float) (maxIterations : ℤ) (tolerance : Float) : Options Float where
  step := clamped stepRange step
  maxIterations := max iterationRange.low (min maxIterations iterationRange.high)
  tolerance := clamped toleranceRange tolerance

theorem inRange_used (step : Float) (maxIterations : ℤ) (tolerance : Float) :
    InRange (used step maxIterations tolerance) where
  step := proper_stepRange.contains_clamped step
  maxIterations := (clamps_max_min ordered_iterationRange maxIterations).legal
  tolerance := proper_toleranceRange.contains_clamped tolerance

theorem make_eq (step : Float) (maxIterations : ℤ) (tolerance : Float) (before : σ) :
    make step maxIterations tolerance before =
      { value := used step maxIterations tolerance, state := before
        log := reported .real "step" stepRange step (clamped stepRange step) ++
          (reported .count "max_iterations" iterationRange maxIterations
              (max iterationRange.low (min maxIterations iterationRange.high)) ++
            reported .real "tolerance" toleranceRange tolerance
              (clamped toleranceRange tolerance)) } := by
  simp only [make, bind, Act.andThen, proper_stepRange.clampReal_eq,
    clampCount_eq ordered_iterationRange, proper_toleranceRange.clampReal_eq, pure, Act.ofPure,
    List.append_nil]
  rfl

/-- Legal options are taken as they are, without a word. -/
theorem InRange.make_eq {options : Options Float} (legal : InRange options) (before : σ) :
    make options.step options.maxIterations options.tolerance before =
      { value := options, state := before, log := [] } := by
  rw [Options.make_eq, used, reported_of_contains legal.step,
    reported_of_contains legal.maxIterations, reported_of_contains legal.tolerance,
    proper_stepRange.clamped_eq_self legal.step,
    (clamps_max_min ordered_iterationRange _).kept legal.maxIterations,
    proper_toleranceRange.clamped_eq_self legal.tolerance]
  rfl

/-- A legal tolerance is one an adjustment can be set up with. -/
theorem exists_config {tolerance : Float} (legal : toleranceRange.Contains tolerance)
    {paramCount pointCount : ℤ} (params : 1 ≤ paramCount) (points : 1 ≤ pointCount) :
    ∃ config, Config.usual paramCount pointCount tolerance .adjustment = .ok config := by
  obtain ⟨l, h, low, -⟩ := proper_toleranceRange.exists_values
  have positive := (Double.lt_iff Double.value_zero low).mp proper_toleranceRange.positive
  obtain ⟨q, read, above⟩ := Double.exists_value_of_le low legal.1
  have accepted : (0.0 : Float) < tolerance :=
    (Double.lt_iff Double.value_zero read).mpr (positive.trans_le above)
  exact ⟨_, Config.make_eq_ok.mpr ⟨params, points, decide_eq_true accepted, by decide +kernel,
    by decide +kernel, by decide +kernel, rfl⟩⟩

/-- Whatever is given, the options that come of it are usable. Each is brought into
its range and is a number; the ones that were outside, and no others, are reported,
in the order of the options. Given once more, the options are taken as they are.
An adjustment of any size accepts their tolerance. -/
theorem make_usable (step : Float) (maxIterations : ℤ) (tolerance : Float) (before : σ) :
    let outcome := make step maxIterations tolerance before
    let made := outcome.value
    outcome.state = before ∧
    stepRange.Clamps step made.step ∧ made.step.isNaN = false ∧
    iterationRange.Clamps maxIterations made.maxIterations ∧
    toleranceRange.Clamps tolerance made.tolerance ∧ made.tolerance.isNaN = false ∧
    outcome.log = reported .real "step" stepRange step made.step ++
      (reported .count "max_iterations" iterationRange maxIterations made.maxIterations ++
        reported .real "tolerance" toleranceRange tolerance made.tolerance) ∧
    (∀ record ∈ outcome.log, record.level = .warning) ∧
    make made.step made.maxIterations made.tolerance before =
      { value := made, state := before, log := [] } ∧
    ∀ paramCount pointCount : ℤ, 1 ≤ paramCount → 1 ≤ pointCount →
      ∃ config, Config.usual paramCount pointCount made.tolerance .adjustment = .ok config := by
  intro outcome made
  have legal : InRange made := by
    simp only [made, outcome, make_eq]
    exact inRange_used step maxIterations tolerance
  have again := legal.make_eq before
  have accepts {paramCount pointCount : ℤ} (params : 1 ≤ paramCount) (points : 1 ≤ pointCount) :=
    exists_config legal.tolerance params points
  have numbers : made.step.isNaN = false ∧ made.tolerance.isNaN = false :=
    ⟨not_isNaN_of_contains legal.step, not_isNaN_of_contains legal.tolerance⟩
  refine ⟨?_, ?_, numbers.1, ?_, ?_, numbers.2, ?_, ?_, again,
    fun _ _ params points => accepts params points⟩ <;>
    simp only [made, outcome, make_eq]
  · exact proper_stepRange.clamps step
  · exact clamps_max_min ordered_iterationRange maxIterations
  · exact proper_toleranceRange.clamps tolerance
  · rfl
  · intro record member
    simp only [List.mem_append] at member
    rcases member with member | member | member <;> exact level_of_mem_reported member

/-- A step that is no number, far too many iterations, and a tolerance that is legal. -/
theorem make_usable_stale :
    let made := (make (0.0 / 0.0) (10 ^ 30) 0.5 ()).value
    made.step = 1e-12 ∧ made.maxIterations = 1000 ∧ made.tolerance = 0.5 ∧
    (make (0.0 / 0.0) (10 ^ 30) (0.5 : Float) ()).log.length = 2 ∧
    (∀ record ∈ (make (0.0 / 0.0) (10 ^ 30) (0.5 : Float) ()).log, record.level = .warning) ∧
    ∃ config, Config.usual 3 12 made.tolerance .adjustment = .ok config := by
  obtain ⟨-, step, -, iterations, tolerance, -, -, warnings, -, accepts⟩ :=
    make_usable (0.0 / 0.0) (10 ^ 30) 0.5 ()
  exact ⟨step.otherwise (by decide +kernel), iterations.above (by decide),
    tolerance.kept (by decide +kernel), by decide +kernel, warnings,
    accepts 3 12 (by decide) (by decide)⟩

end Options

end OpticTune
