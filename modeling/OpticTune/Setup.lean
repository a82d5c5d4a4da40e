import OpticTune.Keyed

namespace OpticTune

/-! Why an adjustment cannot be set up.

Only a setup fails this way; once an adjustment runs, trouble shows in its
status.
-/

structure Complaint where
  reason : String
  context : List (String × String)
deriving Repr, DecidableEq

def Complaint.make (reason : String) (context : List (String × String)) : Complaint :=
  { reason, context := Keyed.ofList (fun key other => key == other) context }

def Complaint.text (complaint : Complaint) : String :=
  if complaint.context.isEmpty then complaint.reason
  else
    let details := complaint.context.map fun (key, value) => key ++ "=" ++ value
    complaint.reason ++ " (" ++ ", ".intercalate details ++ ")"

inductive SetupError where
  | noGoals
  | noAdjustables
  | noGoodRays (rays : Nat)
  | residualCount (expected found : Nat)
  | tooManyAdjustables (found most : Nat)
  | noRayGoals
  | tooManyGoals (found most : Nat)
  | goalRows (rays rows : Nat)
deriving Repr, DecidableEq

namespace SetupError

def reason : SetupError → String
  | noGoals => "no ray goals or WFE"
  | noAdjustables => "no adjustables"
  | noGoodRays _ => "no good rays"
  | residualCount _ _ => "residual count mismatch, rebuild residuals"
  | tooManyAdjustables _ most => "> " ++ toString most ++ " adjustables"
  | noRayGoals => "no ray goals"
  | tooManyGoals _ most => "> " ++ toString most ++ " goals"
  | goalRows _ _ => "goal table does not match ray table"

def counts : SetupError → List (String × Nat)
  | noGoals => []
  | noAdjustables => []
  | noGoodRays rays => [("n_rays", rays)]
  | residualCount expected found => [("expected", expected), ("found", found)]
  | tooManyAdjustables found _ => [("n_adjustables", found)]
  | noRayGoals => [("n_goals", 0)]
  | tooManyGoals found _ => [("n_goals", found)]
  | goalRows rays rows => [("n_rays", rays), ("n_goal_rows", rows)]

def complaint (error : SetupError) : Complaint where
  reason := error.reason
  context := error.counts.map fun (key, count) => (key, toString count)

end SetupError

end OpticTune
