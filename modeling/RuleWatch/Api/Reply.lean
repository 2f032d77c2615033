import RuleWatch.Api.Code
import RuleWatch.Failure
import RuleWatch.Journal
import RuleWatch.Listing.Page

/-!
# Replies

The one form of everything that the service says: a code, a message, the trace id of the request,
and data. What went wrong inside is written in the journal and kept out of the reply.
-/

namespace RuleWatch.Api

/-- What the service says to a request. -/
structure Reply where
  status : Nat
  code : Nat
  message : String
  trace : String
  data : Json
  deriving Repr, Inhabited

namespace Reply

/-- A reply as it is written. -/
def toJson (r : Reply) : Json :=
  .object [("code", .ofNat r.code), ("message", .string r.message), ("trace_id", .string r.trace),
    ("data", r.data)]

/-- Success, with data. -/
def success (trace : String) (data : Json) : Reply :=
  ⟨200, 0, "success", trace, data⟩

/-- Success that has nothing but words. -/
def plain (trace message : String) : Reply :=
  ⟨200, 0, message, trace, .null⟩

/-- One page of rows, and the number of all of them. -/
def pageData (rows : List Json) (total : Nat) (page : Page) : Json :=
  .object [("records", .array rows), ("page_total", .ofNat total),
    ("page_no", .ofNat page.number), ("page_size", .ofNat page.size)]

/-- A failure of a class, with data. -/
def failureWith (code : Code) (trace message : String) (data : Json) : Reply :=
  ⟨code.status, code.number, message, trace, data⟩

/-- A failure of a class. -/
def failure (code : Code) (trace message : String) : Reply :=
  failureWith code trace message .null

/-- An object with an id and nothing else. -/
def idData (id : Int) : Json :=
  .object [("id", .ofInt id)]

/-- What a client is told of a failure of the service. -/
def ofFailure (trace : String) : Failure → Reply
  | .invalidRule reason => failure .invalidRule trace ("invalid rule: " ++ reason.message)
  | .invalidArgument text => failure .badRequest trace text
  | .notFound entity id =>
    failure .notFound trace (entity.name ++ " " ++ toString id ++ " not found")
  | .conflict text => failure .conflict trace text
  | .unannounced ruleId _ =>
    failureWith .unannounced trace "rule saved but the detector was not notified" (idData ruleId)
  | .unavailable _ => failure .detectorUnavailable trace "detector unavailable"
  | .undecodable _ => failure .detectorUndecodable trace "detector returned an unreadable payload"
  | .store _ => failure .storage trace "database error"

/-- What is written in the journal of a failure of the service. -/
def eventOfFailure? (trace : String) : Failure → Option Journal.Event
  | .unavailable f => some (.detectorFailed trace f.message)
  | .undecodable f => some (.payloadRejected trace f.message)
  | .store f => some (.storageFailed trace f.message)
  | _ => none

end Reply

end RuleWatch.Api
