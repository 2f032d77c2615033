import RuleWatch.Json.Decoder

/-!
# Failures of the detector

What can go wrong when the detector is asked for something. An endpoint is the path that was asked.
-/

namespace RuleWatch.Detector

/-- Why a request to the detector brought nothing. -/
inductive Failure
  /-- No answer came. -/
  | noAnswer
  /-- The detector answered that it did not do what was asked. -/
  | status (endpoint : String) (status : Int) (message : String)
  /-- The answer is no envelope. -/
  | malformed (endpoint : String) (fault : Json.Fault)
  /-- The detector did what was asked, and its data are of another kind than those asked for. -/
  | undecodable (endpoint : String) (fault : Json.Fault)
  deriving DecidableEq, Repr

namespace Failure

/-- What is wrong with a JSON text, in words. -/
def faultText : Json.Fault → String
  | .text => "no JSON"
  | .shape => "JSON of another kind"

/-- What went wrong, in words. -/
def message : Failure → String
  | .noAnswer => "Detector: HTTP request failed: no answer"
  | .status endpoint code text =>
    "Detector: " ++ endpoint ++ " answered status=" ++ toString code ++ " " ++ text
  | .malformed endpoint fault =>
    "Detector: malformed response from " ++ endpoint ++ ": " ++ faultText fault
  | .undecodable endpoint fault =>
    "Detector: cannot decode data from " ++ endpoint ++ ": " ++ faultText fault

/-- The detector acknowledged the request, and only its data could not be read. -/
def isUndecodable : Failure → Bool
  | .undecodable .. => true
  | _ => false

end Failure

end RuleWatch.Detector
