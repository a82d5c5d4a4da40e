namespace OpticTune

/-! The version of the library's behaviour. -/

def version : String := "0.1.0"

end OpticTune
