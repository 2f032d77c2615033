import RuleWatch.Detector.Failure

/-!
# Envelopes

The form of every answer of the detector: a status, and with it either a message or data. Only the
status 200 acknowledges a request.
-/

namespace RuleWatch.Detector

open Json

/-- An answer of the detector. -/
inductive Envelope
  | success (data : Json)
  | failure (status : Int) (message : String)
  deriving Repr, Inhabited

namespace Envelope

/-- The status of an acknowledgement. -/
def statusOk : Int := 200

/-- The envelope with these parts. Data of a failure and the message of a success do not count. -/
def ofParts (status : Int) (message : Option String) (data : Json) : Envelope :=
  if status = statusOk then success data else failure status (message.getD "")

/-- An envelope as a record. -/
def record : Record Envelope :=
  ofParts <$> .required "status" .int64
    <*> .defaulted "message" [] Decoder.string.nullable none
    <*> .defaulted "data" [] Decoder.member Json.null

/-- The envelope that the body of an answer is. -/
def parse (endpoint : String) (body : Bytes) : Except Failure Envelope :=
  (Decoder.ofBytes record.decoder body).mapError (.malformed endpoint)

/-- The data of an acknowledgement. -/
def data (endpoint : String) : Envelope → Except Failure Json
  | success data => .ok data
  | failure status message => .error (.status endpoint status message)

end Envelope

/-- Data as values of the type that was asked for; `empty` stands for data that are null. -/
def decodeData {α : Type} (endpoint : String) (decode : Json → Except Fault α) (empty : α) :
    Json → Except Failure α
  | .null => .ok empty
  | data => (decode data).mapError (.undecodable endpoint)

end RuleWatch.Detector
