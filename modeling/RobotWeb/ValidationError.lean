/-!
# Validation errors

A value given by the caller that is outside its contract, found before anything is sent.
-/

namespace RobotWeb

/-- Which rule the value of a parameter breaks. -/
inductive ValidationError where
  | outOfRange (parameter : String) (low high value : Int)
  | invalid (parameter value reason : String)
  | missing (parameter : String)
  deriving DecidableEq, Repr

def ValidationError.description : ValidationError → String
  | .outOfRange parameter low high value =>
    "Parameter '" ++ parameter ++ "' value '" ++ toString value ++ "' is out of range (" ++
      toString low ++ "..=" ++ toString high ++ ")"
  | .invalid parameter value reason =>
    "Parameter '" ++ parameter ++ "' value '" ++ value ++ "' is invalid: " ++ reason
  | .missing parameter => "Required parameter '" ++ parameter ++ "' is missing"

end RobotWeb
