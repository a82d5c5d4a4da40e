import OpticTune.Optics.Tag
import OpticTune.Text.Case
import OpticTune.Text.Letter

namespace OpticTune.Optics

/-! Tags in the letters of all scripts. -/

def Alphabet.unicode : Alphabet where
  isLetters := Text.isLetters
  upper := Text.inCapitals
  isUpper := Text.isInCapitals

end OpticTune.Optics
