import OpticTune.Adjust.Progress
import OpticTune.Decimal.Format

namespace OpticTune.Adjust

/-! The radius shown when every ray aims at a point: the root of the mean square
distance from it, where the rms is taken over single coordinates. -/

def radius? (goalCount : Int) (rms : Float) : Option Float :=
  if hasRadius goalCount then some ((2.0 : Float).sqrt * rms) else none

def Progress.radius? (progress : Progress Float) : Option Float :=
  Adjust.radius? progress.goalCount progress.rms

def Note.mixedText : String := "Caution: WFE + other goals"

def Note.text (note : Note) (radius : Option Float) : String :=
  match note, radius with
  | .mixedGoals, _ => mixedText
  | .rssRadius, some radius => "RSS Radius = " ++ Decimal.significant 6 radius
  | _, _ => ""

def Progress.noteText (progress : Progress Float) : String :=
  progress.note.text progress.radius?

end OpticTune.Adjust
