import OpticTune.Options.File
import OpticTune.Proofs.Options.Clamped
import OpticTune.Proofs.Scalar.Whole
import OpticTune.Proofs.Stops

namespace OpticTune

namespace Options

open Act (Returns Stops)

/-! Options read from a document that gives numbers for them.

An option is converted to the kind of number it is wanted as before it is brought
into its range. So the ranges take care of every number but those that have no
conversion: whole numbers too large for a double and, where a whole number is
wanted, what is infinite or not a number.
-/

variable {σ : Type} {before after : σ}

section Conversion

def Quantity.value : Quantity Float → Value Float
  | .count number => .whole number
  | .real number => .real number

def Quantity.toReal : Quantity Float → Float
  | .count number => number
  | .real number => number

def Quantity.toWhole : Quantity Float → Int
  | .count number => number
  | .real number => Scalar.truncate number

/-- Whether there is a double for a number. -/
def Quantity.HasReal : Quantity Float → Prop
  | .count number => |number| < 2 ^ 1024 - 2 ^ 970
  | .real _ => True

/-- Whether there is a whole number for a number. -/
def Quantity.HasWhole : Quantity Float → Prop
  | .count _ => True
  | .real number => number.isFinite = true

/-- Why there is no whole number. -/
def Quantity.wholeFault : Quantity Float → ReadingError
  | .count _ => .tooLarge
  | .real number => if number.isNaN then .wholeOfNaN else .tooLarge

/-- A conversion of values that, of the numbers, takes those that fit and no others. -/
structure Converts {β : Type} (convert : Value Float → Except ReadingError β)
    (fits : Quantity Float → Prop) (converted : Quantity Float → β)
    (fault : Quantity Float → ReadingError) : Prop where
  taken : ∀ {quantity}, fits quantity → convert quantity.value = .ok (converted quantity)
  refused : ∀ {quantity}, ¬ fits quantity → convert quantity.value = .error (fault quantity)

theorem converts_toReal (reader : NumberReader Float) :
    Converts (Value.toReal reader) Quantity.HasReal Quantity.toReal fun _ => .tooLarge where
  taken {quantity} fits := by
    cases quantity with
    | count number => exact if_pos ((Double.isFinite_ofInt_iff number).mpr fits)
    | real number => rfl
  refused {quantity} large := by
    cases quantity with
    | count number =>
        exact if_neg fun finite => large ((Double.isFinite_ofInt_iff number).mp finite)
    | real number => exact absurd trivial large

theorem converts_toWhole (reader : NumberReader Float) :
    Converts (Value.toWhole reader) Quantity.HasWhole Quantity.toWhole Quantity.wholeFault where
  taken {quantity} fits := by
    cases quantity with
    | count number => rfl
    | real number =>
        have finite : Scalar.isFinite number = true := fits
        have number : Scalar.isNaN number = false :=
          (Double.isNaN_eq number).trans (Double.not_isNaN_of_isFinite fits)
        simp only [Quantity.value, Value.toWhole, number, finite]
        rfl
  refused {quantity} unfit := by
    cases quantity with
    | count number => exact absurd trivial unfit
    | real number =>
        have infinite : Scalar.isFinite number = false := Bool.eq_false_iff.mpr unfit
        simp only [Quantity.value, Value.toWhole, Quantity.wholeFault, infinite, Double.isNaN_eq]
        split <;> rfl

variable {β : Type} {convert : Value Float → Except ReadingError β}
  {fits : Quantity Float → Prop} {converted : Quantity Float → β}
  {fault : Quantity Float → ReadingError} (converts : Converts convert fits converted fault)
  {given : Option (Quantity Float)}

include converts

theorem Converts.returns_mapM {answer : Option β} :
    Returns ((given.map Quantity.value).mapM fun value => (liftM (convert value) :
      ExceptT ReadingError (Act Float σ) β)) before answer after ↔
      (∀ quantity ∈ given, fits quantity) ∧ answer = given.map converted ∧ after = before := by
  cases given with
  | none => exact Act.returns_pure.trans (and_iff_right fun _ absent => nomatch absent).symm
  | some quantity =>
      have only : (∀ other ∈ some quantity, fits other) ↔ fits quantity :=
        ⟨fun all => all quantity rfl, fun holds other same => Option.some.inj same ▸ holds⟩
      rw [only]
      change Returns (liftM (convert quantity.value) >>= fun number => pure (some number))
        before answer after ↔ _
      rw [Act.returns_ofExcept_bind]
      by_cases holds : fits quantity
      · simp [converts.taken holds, holds]
      · simp [converts.refused holds, holds]

theorem Converts.stops_mapM {error : ReadingError} :
    Stops ((given.map Quantity.value).mapM fun value => (liftM (convert value) :
      ExceptT ReadingError (Act Float σ) β)) before error ↔
      ∃ quantity ∈ given, ¬ fits quantity ∧ error = fault quantity := by
  cases given with
  | none => exact iff_of_false Act.stops_pure fun ⟨_, absent, _⟩ => nomatch absent
  | some quantity =>
      change Stops (liftM (convert quantity.value) >>= fun number => pure (some number))
        before error ↔ _
      rw [Act.stops_bind, Act.stops_ofExcept]
      by_cases holds : fits quantity
      · simp [converts.taken holds, holds]
      · simp [converts.refused holds, holds, eq_comm]

end Conversion

/-- The numbers a section gives for the options; none for those that are absent. -/
structure Given (options : List (Value Float × Value Float))
    (step maxIterations tolerance : Option (Quantity Float)) : Prop where
  step : find? "step" options = step.map Quantity.value
  maxIterations : find? "max_iterations" options = maxIterations.map Quantity.value
  tolerance : find? "tolerance" options = tolerance.map Quantity.value

/-- The numbers given all have conversions. -/
structure Convertible (step maxIterations tolerance : Option (Quantity Float)) : Prop where
  step : ∀ quantity ∈ step, quantity.HasReal
  maxIterations : ∀ quantity ∈ maxIterations, quantity.HasWhole
  tolerance : ∀ quantity ∈ tolerance, quantity.HasReal

/-- An error is due to a number that has no conversion. -/
def Unconvertible (step maxIterations tolerance : Option (Quantity Float))
    (error : ReadingError) : Prop :=
  (error = .tooLarge ∧ ∃ quantity, (quantity ∈ step ∨ quantity ∈ tolerance) ∧
    ¬ quantity.HasReal) ∨
  ∃ quantity ∈ maxIterations, ¬ quantity.HasWhole ∧ error = quantity.wholeFault

/-- The options that come of the numbers given. -/
def usedOf (step maxIterations tolerance : Option (Quantity Float)) : Options Float :=
  used ((step.map Quantity.toReal).getD defaultStep)
    ((maxIterations.map Quantity.toWhole).getD defaultMaxIterations)
    ((tolerance.map Quantity.toReal).getD defaultTolerance)

section Entries

variable {reader : NumberReader Float} {options : List (Value Float × Value Float)}
  {step maxIterations tolerance : Option (Quantity Float)}
  (given : Given options step maxIterations tolerance)

include given

theorem Given.returns_ofEntries {made : Options Float} :
    Returns (ofEntries reader options : ExceptT ReadingError (Act Float σ) (Options Float))
        before made after ↔
      Convertible step maxIterations tolerance ∧ made = usedOf step maxIterations tolerance ∧
        after = before := by
  unfold ofEntries
  -- Each of the three conversions returns or is stopped by itself; clamping never stops.
  rw [given.step, given.maxIterations, given.tolerance]
  simp only [Act.returns_bind, (converts_toReal reader).returns_mapM,
    (converts_toWhole reader).returns_mapM, Act.returns_lift, usual, make_eq]
  constructor
  · rintro ⟨_, _, ⟨realStep, rfl, rfl⟩, _, _, ⟨whole, rfl, rfl⟩, _, _, ⟨realTolerance, rfl, rfl⟩,
      rfl, rfl⟩
    exact ⟨⟨realStep, whole, realTolerance⟩, rfl, rfl⟩
  · rintro ⟨fits, rfl, rfl⟩
    exact ⟨_, _, ⟨fits.step, rfl, rfl⟩, _, _, ⟨fits.maxIterations, rfl, rfl⟩, _, _,
      ⟨fits.tolerance, rfl, rfl⟩, rfl, rfl⟩

/-- Only a number without a conversion keeps the options from being read. -/
theorem Given.stops_ofEntries {error : ReadingError}
    (stopped : Stops (ofEntries reader options : ExceptT ReadingError (Act Float σ) (Options Float))
      before error) :
    Unconvertible step maxIterations tolerance error := by
  unfold ofEntries at stopped
  rw [given.step, given.maxIterations, given.tolerance] at stopped
  simp only [Act.stops_bind, (converts_toReal reader).stops_mapM,
    (converts_toWhole reader).stops_mapM, Act.stops_lift, and_false, exists_false,
    or_false] at stopped
  rcases stopped with ⟨quantity, member, large, same⟩ | ⟨_, _, -, ⟨quantity, member, unfit, same⟩ |
    ⟨_, _, -, quantity, member, large, same⟩⟩
  · exact .inl ⟨same, quantity, .inl member, large⟩
  · exact .inr ⟨quantity, member, unfit, same⟩
  · exact .inl ⟨same, quantity, .inr member, large⟩

end Entries

@[simp]
theorem entries?_mapping {α : Type} [Scalar α] (entries : List (Value α × Value α)) :
    (Value.mapping entries).entries? = some entries := by
  cases entries <;> rfl

/-- What an option is after reading: its usual value where no number was given, else
the number brought into the range. -/
def Took {β : Type} [LE β] [LT β] (range : Range β) (absent : β) (convert : Quantity Float → β)
    (made : β) : Option (Quantity Float) → Prop
  | none => made = absent
  | some quantity => range.Clamps (convert quantity) made

theorem inRange_usual : InRange ⟨defaultStep, defaultMaxIterations, defaultTolerance⟩ where
  step := by decide +kernel
  maxIterations := by decide +kernel
  tolerance := by decide +kernel

theorem Proper.took {range : Range Float} (proper : Proper range) {absent : Float}
    (legal : range.Contains absent) (convert : Quantity Float → Float)
    (given : Option (Quantity Float)) :
    Took range absent convert (clamped range ((given.map convert).getD absent)) given := by
  cases given with
  | none => exact proper.clamped_eq_self legal
  | some quantity => exact proper.clamps (convert quantity)

theorem took_maxIterations (given : Option (Quantity Float)) :
    Took iterationRange defaultMaxIterations Quantity.toWhole
      (max iterationRange.low
        (min ((given.map Quantity.toWhole).getD defaultMaxIterations) iterationRange.high))
      given := by
  cases given with
  | none => exact (clamps_max_min ordered_iterationRange _).kept inRange_usual.maxIterations
  | some quantity => exact clamps_max_min ordered_iterationRange quantity.toWhole

section File

variable {ε : Type} {parse : ByteArray → Except ε (Value Float)} {path : String}
  {bytes : ByteArray} {entries options : List (Value Float × Value Float)}
  {step maxIterations tolerance : Option (Quantity Float)}
  (parsed : parse bytes = .ok (.mapping entries))
  (found : find? "auto" entries = some (.mapping options))
  (given : Given options step maxIterations tolerance)

include parsed found

theorem ofFile_eq :
    (ofFile parse path (some bytes) : ExceptT (FileError ε) (Act Float σ) (Options Float)) =
      (Act.note (.optionsLoaded path options) >>= fun _ => ofEntries decimalReader options :
        ExceptT ReadingError (Act Float σ) (Options Float)).adapt (FileError.reading path) := by
  simp only [ofFile, parsed, ofDocument, entries?_mapping, found, Option.getD_some]

include given

theorem returns_ofFile {made : Options Float} :
    Returns (ofFile parse path (some bytes) : ExceptT (FileError ε) (Act Float σ) (Options Float))
        before made after ↔
      Convertible step maxIterations tolerance ∧ made = usedOf step maxIterations tolerance ∧
        after = before := by
  rw [ofFile_eq parsed found, Act.returns_adapt, Act.returns_note_bind]
  exact given.returns_ofEntries

theorem stops_ofFile {error : FileError ε}
    (stopped : Stops
      (ofFile parse path (some bytes) : ExceptT (FileError ε) (Act Float σ) (Options Float))
      before error) :
    ∃ fault, error = .reading path fault ∧ Unconvertible step maxIterations tolerance fault := by
  rw [ofFile_eq parsed found, Act.stops_adapt] at stopped
  obtain ⟨fault, stopped, same⟩ := stopped
  exact ⟨fault, same, given.stops_ofEntries (Act.stops_note_bind.mp stopped)⟩

omit parsed found given

/-- Whatever the parser: the options of a file that gives numbers for them are read
exactly if all these numbers have conversions. Then they are all legal, whatever the
numbers were; those that are absent have their usual values. -/
theorem ofFile_usable (parsed : parse bytes = .ok (.mapping entries))
    (found : find? "auto" entries = some (.mapping options))
    (given : Given options step maxIterations tolerance) (before : σ) :
    let load : ExceptT (FileError ε) (Act Float σ) (Options Float) :=
      ofFile parse path (some bytes)
    ((∃ made after, Returns load before made after) ↔
      Convertible step maxIterations tolerance) ∧
    (∀ made after, Returns load before made after → after = before ∧ InRange made ∧
      Took stepRange defaultStep Quantity.toReal made.step step ∧
      Took iterationRange defaultMaxIterations Quantity.toWhole made.maxIterations
        maxIterations ∧
      Took toleranceRange defaultTolerance Quantity.toReal made.tolerance tolerance) ∧
    ∀ error, Stops load before error →
      ∃ fault, error = .reading path fault ∧
        Unconvertible step maxIterations tolerance fault := by
  refine ⟨⟨?_, ?_⟩, ?_, ?_⟩
  · rintro ⟨made, after, returned⟩
    exact ((returns_ofFile parsed found given).mp returned).1
  · exact fun fits => ⟨_, before, (returns_ofFile parsed found given).mpr ⟨fits, rfl, rfl⟩⟩
  · intro made after returned
    obtain ⟨-, rfl, same⟩ := (returns_ofFile parsed found given).mp returned
    exact ⟨same, inRange_used _ _ _, proper_stepRange.took inRange_usual.step _ _,
      took_maxIterations _, proper_toleranceRange.took inRange_usual.tolerance _ _⟩
  · exact fun error stopped => stops_ofFile parsed found given stopped

end File

section OneOption

variable (name text : String) (value : Value Float)

/-- A file that gives one option. -/
def optionFile : ByteArray :=
  ("auto:\n  " ++ name ++ ": " ++ text ++ "\n").toUTF8

def optionEntries : List (Value Float × Value Float) :=
  [(.text (Text.codePoints name), value)]

/-- A parser that can read such a file, for the value the text stands for, and no other. -/
def parseOption (bytes : ByteArray) : Except Unit (Value Float) :=
  if bytes = optionFile name text then
    .ok (.mapping [(.text (Text.codePoints "auto"), .mapping (optionEntries name value))])
  else .error ()

theorem parseOption_optionFile :
    parseOption name text value (optionFile name text) =
      .ok (.mapping [(.text (Text.codePoints "auto"), .mapping (optionEntries name value))]) :=
  if_pos rfl

end OneOption

/-- A step of a thousand is brought down to one. -/
theorem ofFile_usable_large_step :
    ∃ made, Returns (ofFile (parseOption "step" "1000" (.whole 1000)) "options.yaml"
        (some (optionFile "step" "1000")) :
        ExceptT (FileError Unit) (Act Float Unit) (Options Float)) () made () ∧
      made.step = 1.0 ∧ made.maxIterations = 100 ∧ made.tolerance = 1e-12 := by
  have given : Given (optionEntries "step" (.whole 1000))
      (some (.count 1000)) none none := ⟨rfl, rfl, rfl⟩
  obtain ⟨returns, usable, -⟩ := ofFile_usable (parseOption_optionFile _ _ _) rfl given ()
  obtain ⟨made, after, returned⟩ := returns.mpr {
    step := fun _ same => Option.some.inj same ▸ (by decide +kernel : |(1000 : ℤ)| < _)
    maxIterations := fun _ absent => nomatch absent
    tolerance := fun _ absent => nomatch absent }
  obtain ⟨-, -, step, iterations, tolerance⟩ := usable made after returned
  exact ⟨made, returned, step.above (by decide +kernel), iterations, tolerance⟩

/-- As a number of iterations, infinity is refused before it could be brought into
the range. -/
theorem infinite_iterations_refused :
    let parse := parseOption "max_iterations" ".inf" (.real Double.infinity)
    parse (optionFile "max_iterations" ".inf") = .ok (.mapping
      [(.text (Text.codePoints "auto"),
        .mapping [(.text (Text.codePoints "max_iterations"), .real Double.infinity)])]) ∧
    Stops (ofFile parse "options.yaml" (some (optionFile "max_iterations" ".inf")) :
        ExceptT (FileError Unit) (Act Float Unit) (Options Float)) ()
      (.reading "options.yaml" .tooLarge) := by
  intro parse
  have given : Given (optionEntries "max_iterations" (.real Double.infinity))
      none (some (.real Double.infinity)) none := ⟨rfl, rfl, rfl⟩
  have parsed := parseOption_optionFile "max_iterations" ".inf" (.real Double.infinity)
  have infinite : ¬ (Quantity.real Double.infinity).HasWhole :=
    (by decide +kernel : ¬ Double.infinity.isFinite = true)
  refine ⟨parsed, ?_⟩
  rcases Act.returns_or_stops (ofFile parse "options.yaml"
    (some (optionFile "max_iterations" ".inf")) :
    ExceptT (FileError Unit) (Act Float Unit) (Options Float)) () with ⟨made, after, returned⟩ |
    ⟨error, stopped⟩
  · have fits := ((returns_ofFile parsed rfl given).mp returned).1
    exact absurd (fits.maxIterations _ rfl) infinite
  · obtain ⟨fault, rfl, cause⟩ := stops_ofFile parsed rfl given stopped
    rcases cause with ⟨rfl, -⟩ | ⟨quantity, member, -, rfl⟩
    · exact stopped
    · cases Option.some.inj member
      exact stopped

end Options

end OpticTune
