import RuleWatch.TimeRange

/-!
# The journal

What the service writes down about its work: events of four levels, each with named fields.
-/

namespace RuleWatch.Journal

/-- How much an event matters. -/
inductive Level
  | debug
  | info
  | warn
  | error
  deriving DecidableEq, Repr

/-- Something that is written down. -/
inductive Event
  | request (trace method target body : String)
  /-- A request whose body is too long to be read. -/
  | requestRefused (trace method target : String)
  | response (trace : String) (status : Nat) (body : String)
  | callingDetector (params : Nat)
  | ruleCreated (id : Int) (name : String)
  | ruleUpdated (id : Int) (name : String)
  | ruleDeleted (id : Int)
  | notificationFailed (ruleId : Int) (error : String)
  | analysisDeleted (id : Int)
  | queryingWindow (analysisId ruleId : Int) (range : TimeRange)
  | detectorFailed (trace error : String)
  | payloadRejected (trace error : String)
  | storageFailed (trace error : String)
  deriving DecidableEq, Repr

namespace Event

/-- The body of a response is written down when it matters: of failures, and of a change that the
detector has not been told of. -/
def showsBody (status : Nat) : Bool :=
  400 ≤ status || status == 202

/-- The level of an event. -/
def level : Event → Level
  | .callingDetector .. | .queryingWindow .. => .debug
  | .request .. | .ruleCreated .. | .ruleUpdated .. | .ruleDeleted .. | .analysisDeleted .. => .info
  | .requestRefused .. | .notificationFailed .. => .warn
  | .detectorFailed .. | .payloadRejected .. | .storageFailed .. => .error
  | .response _ status _ =>
    if 500 ≤ status then .error else if showsBody status then .warn else .info

/-- What the event is, in words. -/
def message : Event → String
  | .request .. => "--> request"
  | .requestRefused .. => "--> request body rejected"
  | .response .. => "<-- response"
  | .callingDetector .. => "Calling detector"
  | .ruleCreated .. => "Rule created"
  | .ruleUpdated .. => "Rule updated"
  | .ruleDeleted .. => "Rule deleted"
  | .notificationFailed .. => "Rule saved but detector notification failed"
  | .analysisDeleted .. => "Analysis result deleted"
  | .queryingWindow .. => "Querying metric window"
  | .detectorFailed .. => "Detector call failed"
  | .payloadRejected .. => "Detector payload rejected"
  | .storageFailed .. => "Storage failure"

/-- The fields of an event, all of them as texts. -/
def fields : Event → List (String × String)
  | .request trace method target body =>
    [("trace_id", trace), ("method", method), ("path", target), ("body", body)]
  | .requestRefused trace method target =>
    [("trace_id", trace), ("method", method), ("path", target)]
  | .response trace status body =>
    [("trace_id", trace), ("status", toString status)]
      ++ (if showsBody status then [("body", body)] else [])
  | .callingDetector params => [("params", toString params)]
  | .ruleCreated id name | .ruleUpdated id name => [("rule_id", toString id), ("name", name)]
  | .ruleDeleted id => [("rule_id", toString id)]
  | .notificationFailed ruleId error => [("rule_id", toString ruleId), ("error", error)]
  | .analysisDeleted id => [("analysis_id", toString id)]
  | .queryingWindow analysisId ruleId range =>
    [("analysis_id", toString analysisId), ("rule_id", toString ruleId),
      ("start", toString range.start), ("end", toString range.finish),
      ("step", toString range.step)]
  | .detectorFailed trace error | .payloadRejected trace error | .storageFailed trace error =>
    [("trace_id", trace), ("error", error)]

end Event

end RuleWatch.Journal
