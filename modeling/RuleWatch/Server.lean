import RuleWatch.Api.Handler
import RuleWatch.Text.Snippet

/-!
# The server

What happens to a request from its coming in to its response: it gets a trace id, it is written in
the journal, it goes to the endpoint under its path, and the response is written in the journal and
given the trace id. Every response is open to all origins, but for the one to a body that is too
long, which is made before anything else is looked at.
-/

namespace RuleWatch

open Http (Method Request Response)

/-- A server that is running. The expressions that come in have to pass its gate. -/
structure Server (gate : Expression.Gate := Expression.check) where
  startedAt : Int

namespace Server

variable {gate : Expression.Gate}

/-! ## Routing -/

/-- The header that says from which origins a response may be read. -/
def originHeader : String := "access-control-allow-origin"

/-- The answer to the question what may be asked: everything, from everywhere. -/
def preflight : Response :=
  ⟨200, [(originHeader, "*"), ("access-control-allow-methods", "*"),
    ("access-control-allow-headers", "*")], .none⟩

/-- What the handler of a request knows. -/
def context (server : Server gate) (trace : String) (r : Request) : Api.Context gate :=
  ⟨server.startedAt, trace, r⟩

@[simp] theorem context_request (server : Server gate) (trace : String) (r : Request) :
    (server.context trace r).request = r := rfl

/-- What the endpoint under the path of a request answers. -/
def route (server : Server gate) (trace : String) (r : Request) : Work Response :=
  match Api.Endpoint.ofPath? r.path with
  | none => return .empty 404
  | some endpoint =>
    if endpoint.allows r.method then do
      let response ← (server.context trace r).handle endpoint
      return if r.method = .head then response.withoutBody else response
    else return .empty 405

/-- The response with leave for all origins. -/
def respond (server : Server gate) (trace : String) (r : Request) : Work Response :=
  if r.method = .options then return preflight
  else do
    let response ← server.route trace r
    return response.setHeader originHeader "*"

/-! ## The journal -/

/-- How many bytes of a body are written in the journal. -/
def maxLogged : Nat := 200

/-- How many bytes the body of a request may have. -/
def maxBody : Nat := 1048576

/-- Bodies are written in the journal, except for those of the description. -/
def logsBodies (r : Request) : Bool :=
  !r.fullTarget.startsWith Api.Endpoint.description.path

/-- The body of a request is read before the request is looked at. -/
def readsBody (r : Request) : Bool :=
  logsBodies r && r.method == .post

/-- The response to a body that is too long. -/
def tooLong (trace : String) : Response :=
  Api.Context.respond <| .failure .payloadTooLarge trace <|
    "request body exceeds " ++ toString maxBody ++ " bytes"

/-- What is written in the journal of the body of a request. -/
def loggedRequest (r : Request) : String :=
  if readsBody r then Text.snippet r.body maxLogged else ""

/-- What is written in the journal of the body of a response to a request. -/
def loggedResponse (r : Request) (response : Response) : String :=
  if logsBodies r && response.header? Response.contentType == some Response.jsonType then
    Text.snippet response.body.toBytes maxLogged
  else ""

/-- The response to a request. -/
def serve (server : Server gate) (r : Request) : Work Response := do
  let trace ← Http.Trace.ofRequest r
  if readsBody r && maxBody < r.body.length then
    Work.perform (.log (.requestRefused trace r.method.name r.fullTarget))
    return (tooLong trace).setHeader Http.Trace.header trace
  else
    Work.perform (.log (.request trace r.method.name r.fullTarget (loggedRequest r)))
    let response ← server.respond trace r
    Work.perform (.log (.response trace response.status (loggedResponse r response)))
    return response.setHeader Http.Trace.header trace

end Server

end RuleWatch
