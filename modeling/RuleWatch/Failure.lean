import RuleWatch.Detector.Failure
import RuleWatch.Rule.Check
import RuleWatch.Store.Failure

/-!
# Failures of the service

Why a request that was understood could not be served. Failures of the store and of the detector
become failures of the service.
-/

namespace RuleWatch

/-- Why a request could not be served. -/
inductive Failure
  /-- The rule was refused before it came to the store. -/
  | invalidRule (reason : Rule.Invalid)
  | invalidArgument (message : String)
  | notFound (entity : Store.Entity) (id : Int)
  | conflict (message : String)
  /-- The detector did not answer, or did not acknowledge. -/
  | unavailable (failure : Detector.Failure)
  /-- The detector acknowledged, and its data could not be read. -/
  | undecodable (failure : Detector.Failure)
  /-- The change of this rule is kept, and the detector has not been told. -/
  | unannounced (ruleId : Int) (failure : Detector.Failure)
  | store (failure : Store.Failure)
  deriving DecidableEq, Repr

namespace Failure

/-- What went wrong, in words. -/
def message : Failure → String
  | .invalidRule reason => "Engine: invalid rule: " ++ reason.message
  | .invalidArgument text => "Engine: invalid argument: " ++ text
  | .notFound entity id =>
    "Engine: " ++ entity.name ++ " not found (id=" ++ toString id ++ ")"
  | .conflict text => "Engine: conflict: " ++ text
  | .unavailable failure => "Engine: detector unavailable: " ++ failure.message
  | .undecodable failure => "Engine: detector payload could not be decoded: " ++ failure.message
  | .unannounced ruleId failure =>
    "Engine: rule " ++ toString ruleId ++ " saved but the detector was not notified: "
      ++ failure.message
  | .store failure => "Engine: storage error: " ++ failure.message

/-- What a failure of the store means for a request. -/
def ofStore : Store.Failure → Failure
  | .notFound entity id => .notFound entity id
  | .conflict entity text => .conflict (entity.name ++ " already exists: " ++ text)
  | .invalidOrder text | .invalidPage text => .invalidArgument text
  | .database text => .store (.database text)

/-- What a failure of the detector means for a request. -/
def ofDetector (failure : Detector.Failure) : Failure :=
  if failure.isUndecodable then .undecodable failure else .unavailable failure

end Failure

end RuleWatch
