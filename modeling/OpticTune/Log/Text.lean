import OpticTune.Decimal.Format
import OpticTune.Decimal.Reading
import OpticTune.Log.Level
import OpticTune.Log.Record
import OpticTune.Log.Registry
import OpticTune.Text.Quoted

namespace OpticTune.Log

/-! The wording of records. Dampings and changes are shown with three digits,
sums of squares and rms with six, and what a user wrote is shown in full. A
record has no wording if a whole number in it has too many digits. -/

open Options (Value Quantity)

structure Line where
  level : Level
  source : String
  text : String
deriving Repr, DecidableEq

def rough (x : Float) : String :=
  Decimal.significant 3 x

def fine (x : Float) : String :=
  Decimal.significant 6 x

/-- A sum of squares that there is none of counts as infinite. -/
def known (sos : Option Float) : Float :=
  sos.getD (1.0 / 0.0)

def Move.text : Move → String
  | .forward => "at +step"
  | .backward => "at -step"
  | .restore => "on restore"

/-- A whole number in full, unless it has more digits than are ever written. -/
def wholeText? (number : Int) : Option String :=
  if number.natAbs < Nat.pow 10 Decimal.mostDigits then some (toString number) else none

def arguments (values : List String) : String :=
  "(" ++ ", ".intercalate values ++ ")"

def dayNumbers (day : Day) : List String :=
  [day.year, day.month, day.day].map toString

/-- How far a clock is ahead of universal time: whole days, and seconds forward. -/
def aheadText (minutes : Int) : String :=
  if minutes = 0 then "datetime.timezone.utc"
  else
    let days := minutes.fdiv Moment.minutesADay
    let seconds := toString (60 * (minutes - days * Moment.minutesADay))
    let parts := if days = 0 then ["seconds=" ++ seconds]
      else ["days=" ++ toString days, "seconds=" ++ seconds]
    "datetime.timezone" ++ arguments ["datetime.timedelta" ++ arguments parts]

/-- Seconds are left out where they are zero, and microseconds too. -/
def momentText (moment : Moment) : String :=
  let fine := if moment.microsecond = 0 then [] else [toString moment.microsecond]
  let seconds := if moment.second = 0 ∧ fine.isEmpty then [] else [toString moment.second]
  let ahead := moment.ahead.toList.map fun minutes => "tzinfo=" ++ aheadText minutes
  "datetime.datetime" ++ arguments (dayNumbers moment.day ++
    [toString moment.hour, toString moment.minute] ++ seconds ++ fine ++ ahead)

mutual

def valueText? : Value Float → Option String
  | .null => some "None"
  | .boolean flag => some (if flag then "True" else "False")
  | .whole number => wholeText? number
  | .real number => some (Decimal.readable number)
  | .text content => some (Text.quoted content)
  | .day day => some ("datetime.date" ++ arguments (dayNumbers day))
  | .moment moment => some (momentText moment)
  | .list items => do
    return "[" ++ ", ".intercalate (← itemTexts? items) ++ "]"
  | .mapping entries => do
    return "\x7b" ++ ", ".intercalate (← entryTexts? entries) ++ "\x7d"
  | .foreign value => value.shown

def itemTexts? : List (Value Float) → Option (List String)
  | [] => some []
  | item :: rest => do
    return (← valueText? item) :: (← itemTexts? rest)

def entryTexts? : List (Value Float × Value Float) → Option (List String)
  | [] => some []
  | (key, held) :: rest => do
    return ((← valueText? key) ++ ": " ++ (← valueText? held)) :: (← entryTexts? rest)

end

def quantityText? : Quantity Float → Option String
  | .count number => wholeText? number
  | .real number => some (Decimal.readable number)

variable {α : Type}

namespace Record

def level : Record α → Level
  | startFailed .. => .info
  | jacobianFailed .. => .info
  | stepUnusable .. => .debug
  | trialJudged .. => .debug
  | dampingExhausted .. => .info
  | columnFailed .. => .debug
  | raysLost .. => .debug
  | rayWentBad .. => .debug
  | raySteered .. => .debug
  | startsDiffer .. => .warning
  | steeringDone .. => .info
  | adjustmentReady .. => .info
  | ticked .. => .debug
  | adjustmentDone .. => .info
  | optionClamped .. => .warning
  | optionsLoaded .. => .debug

def source (record : Record α) : String :=
  Registry.fullName (place record)
where
  place : Record α → String
    | startFailed .. => "invert.levenberg"
    | jacobianFailed .. => "invert.levenberg"
    | stepUnusable .. => "invert.levenberg"
    | trialJudged .. => "invert.levenberg"
    | dampingExhausted .. => "invert.levenberg"
    | columnFailed .. => "hosts.base"
    | raysLost .. => "hosts.adjust"
    | rayWentBad .. => "auto.ray"
    | raySteered .. => "auto.ray"
    | startsDiffer .. => "auto.ray"
    | steeringDone .. => "auto.ray"
    | adjustmentReady .. => "auto.adjust"
    | ticked .. => "auto.adjust"
    | adjustmentDone .. => "auto.adjust"
    | optionClamped .. => "utils.config"
    | optionsLoaded .. => "utils.config"

def text? : Record Float → Option String
  | startFailed iteration => s!"iteration {iteration}: initial evaluation failed"
  | jacobianFailed iteration => s!"iteration {iteration}: Jacobian evaluation failed"
  | stepUnusable trial damping => s!"trial {trial}: no usable step at damping {rough damping}"
  | trialJudged trial damping sos start =>
      let rise := (known sos - start) / (1 + start)
      s!"trial {trial}: damping {rough damping} sos {fine (known sos)} rise {rough rise}"
  | dampingExhausted iteration damping =>
      s!"iteration {iteration}: damping reached {rough damping} without an accepted step"
  | columnFailed column move => s!"Jacobian column {column} failed {move.text}"
  | raysLost traced expected => s!"{traced} of {expected} rays traced"
  | rayWentBad ray => s!"ray {ray} went bad"
  | raySteered ray iterations sos =>
      s!"ray {ray}: {iterations} iterations, sos {rough (known sos)}"
  | startsDiffer atSetup atSteering =>
      s!"{atSetup} rays traced at setup but {atSteering} at start of steering"
  | steeringDone adjusted failed rays =>
      s!"AutoRay: {adjusted} adjusted, {failed} failed of {rays} rays"
  | adjustmentReady adjustables rays goals rms =>
      s!"AutoAdjust: {adjustables} adjustables, {rays} rays, {goals} goals, rms {fine rms}"
  | ticked tick status rms damping =>
      s!"tick {tick}: {status.name} rms {fine rms} damping {rough damping}"
  | adjustmentDone ticks status rms =>
      s!"AutoAdjust finished after {ticks} ticks: {status.name}, rms {fine rms}"
  | optionClamped name given low high used => do
      let range := "[" ++ (← quantityText? low) ++ ", " ++ (← quantityText? high) ++ "]"
      return name ++ "=" ++ (← quantityText? given) ++ " outside " ++ range ++ ", using " ++
        (← quantityText? used)
  | optionsLoaded path entries => do
      return "Loaded auto options from " ++ path ++ ": " ++ (← valueText? (.mapping entries))

def line? (record : Record Float) : Option Line := do
  return { level := record.level, source := record.source, text := ← record.text? }

end Record

/-- The records of a level and of weightier ones, in their order, up to the first
that has no wording. -/
structure Written where
  lines : List Line
  complete : Bool

def written (level : Level) (records : List (Record Float)) : Written :=
  let lines := records.filterMap fun record =>
    if level.number ≤ record.level.number then some record.line? else none
  let worded := lines.takeWhile Option.isSome
  { lines := worded.filterMap id, complete := worded.length == lines.length }

end OpticTune.Log
