import RuleWatch.Api.Description
import RuleWatch.Api.ListParams
import RuleWatch.Api.Reply
import RuleWatch.Http.Form
import RuleWatch.Http.MediaType
import RuleWatch.Http.Trace
import RuleWatch.Rule.Coding
import RuleWatch.Service.Analyses
import RuleWatch.Service.Rules

/-!
# Handlers

What the service does for each endpoint: it reads the parameters or the body, works, and replies.
A request that cannot be read is refused without any work.
-/

namespace RuleWatch.Api

open Listing
open Http (Form Request Response)

/-- The name of the service in its description. -/
def title : String := "anomon API"

/-- The version of the service. -/
def version : String := "0.1.0"

/-- What handlers know: when the service was started, the trace id, and the request. Expressions
have to pass the gate. -/
structure Context (gate : Expression.Gate := Expression.check) where
  startedAt : Int
  trace : String
  request : Request

namespace Context

variable {gate : Expression.Gate}

/-! ## Answers -/

/-- A reply as a response. -/
def respond (r : Reply) : Response :=
  .json r.status r.toJson

/-- Replies that the request itself is at fault. -/
def refuse (ctx : Context gate) (message : String) : Work Response :=
  return respond (.failure .badRequest ctx.trace message)

/-- Works, and replies with the data or with the failure. -/
def answer (ctx : Context gate) (work : Attempt Json) : Work Response := do
  match ← work.run with
  | .ok data => return respond (.success ctx.trace data)
  | .error failure =>
    match Reply.eventOfFailure? ctx.trace failure with
    | some event => Work.perform (.log event)
    | none => pure ()
    return respond (.ofFailure ctx.trace failure)

/-- Works for a page of rows. -/
def answerPage {α : Type} (ctx : Context gate) (page : Page) (toJson : α → Json)
    (work : Attempt (List α × Nat)) : Work Response :=
  ctx.answer do
    let (rows, total) ← work
    return Reply.pageData (rows.map toJson) total page

/-- Asks the detector, and replies with what it brings. -/
def answerQuery {α : Type} (ctx : Context gate) (toJson : α → Json) (q : Detector.Query α) :
    Work Response :=
  ctx.answer do
    let data ← Service.query q
    return toJson data

/-! ## Readers -/

/-- What is answered when the parameters cannot be read. -/
def formRefused : Response :=
  .text 400 "Failed to deserialize query string"

/-- Reads the parameters and goes on with them. -/
def withForm {α : Type} (ctx : Context gate) (read : Form → Except Form.Fault α)
    (next : α → Work Response) : Work Response :=
  match read (Form.ofText ctx.request.formText) with
  | .ok a => next a
  | .error _ => return formRefused

/-- What is answered when a body cannot be read. -/
def bodyRefused : Json.Fault → Response
  | .text => .text 400 "Failed to parse the request body as JSON"
  | .shape => .text 422 "Failed to deserialize the JSON body into the target type"

/-- What is answered when a body is not said to be JSON. -/
def typeRefused : Response :=
  .text 415 "Expected request with `Content-Type: application/json`"

/-- Reads the body and goes on with it. -/
def withBody {α : Type} (ctx : Context gate) (d : Json.Decoder α) (next : α → Work Response) :
    Work Response :=
  if (ctx.request.header? Response.contentType).any Http.MediaType.isJson then
    match d.ofBytes ctx.request.body with
    | .ok a => next a
    | .error fault => return bodyRefused fault
  else return typeRefused

/-- Lets an expression pass that the gate lets pass. -/
def withExpression (ctx : Context gate) (expression : String) (next : Work Response) :
    Work Response :=
  match gate expression with
  | .ok () => next
  | .error fault => ctx.refuse ("invalid expression: " ++ fault.message)

/-- Lets a time range pass that can be looked at. -/
def withRange (ctx : Context gate) (range : TimeRange) (next : Work Response) : Work Response :=
  match range.check with
  | .ok () => next
  | .error fault => ctx.refuse fault.message

end Context

/-! ## Parameters -/

namespace Params

/-- An id. -/
def id (form : Form) : Except Form.Fault Int :=
  form.requiredInt "id"

/-- A number of a listing, absent if it is left out or blank. -/
def listNumber (form : Form) (key : String) : Except Form.Fault (Option Nat) := do
  match ← form.optionalText key with
  | none => return none
  | some value => Form.readAs key ListParams.numberOfText value

/-- What is said about a listing. -/
def list (form : Form) : Except Form.Fault ListParams := do
  return ⟨← form.optionalText "filter", ← form.optionalText "sort_field",
    ← form.optionalText "sort_order", ← listNumber form "page_no", ← listNumber form "page_size"⟩

/-- A time range. -/
def range (form : Form) : Except Form.Fault TimeRange := do
  return ⟨← form.requiredInt "start_time", ← form.requiredInt "end_time",
    ← form.requiredInt "step"⟩

/-- A machine that may be left out. -/
def machine (form : Form) : Except Form.Fault (Option String) :=
  form.optionalText "instance"

/-- A machine that must be given. -/
def requiredMachine (form : Form) : Except Form.Fault String :=
  form.requiredText "instance"

/-- A machine and a time range. -/
def machineRange (form : Form) : Except Form.Fault (String × TimeRange) := do
  return (← requiredMachine form, ← range form)

/-- An expression. -/
def expression (form : Form) : Except Form.Fault String :=
  form.requiredText "query"

/-- An expression, and a point in time that may be left out. -/
def instant (form : Form) : Except Form.Fault (String × Option Int) := do
  return (← expression form, ← form.optionalInt "time")

/-- An expression and a time range. -/
def window (form : Form) : Except Form.Fault (String × TimeRange) := do
  return (← expression form, ← range form)

end Params

/-! ## Handlers -/

namespace Context

variable {gate : Expression.Gate}

/-- Lists the rows of some kind. -/
def listRows {φ ρ : Type} [Column φ ρ] (ctx : Context gate) (toJson : ρ → Json)
    (work : Option String → Order φ → Page → Attempt (List ρ × Nat)) : Work Response :=
  ctx.withForm Params.list fun params ↦
    match params.page with
    | .error fault => ctx.refuse fault.message
    | .ok page =>
      match params.order φ with
      | .error message => ctx.refuse message
      | .ok order => ctx.answerPage page toJson (work params.needle order page)

/-- Replies with the id of what has been changed. -/
def answerId (ctx : Context gate) (work : Attempt Int) : Work Response :=
  ctx.answer (Reply.idData <$> work)

def health (ctx : Context gate) : Work Response := do
  let now ← Work.perform .clock
  return respond <| .success ctx.trace <|
    .object [("version", .string version), ("uptime_secs", .ofInt (now - ctx.startedAt))]

def createRule (ctx : Context gate) : Work Response :=
  ctx.withBody Rule.Draft.record.decoder fun draft ↦
    ctx.answerId do
      let rule ← Service.Rules.create gate draft
      return rule.id

def updateRule (ctx : Context gate) : Work Response :=
  ctx.withBody Rule.updateRequest fun (id, changes) ↦
    ctx.answerId do
      let rule ← Service.Rules.update gate id changes
      return rule.id

def deleteRule (ctx : Context gate) : Work Response :=
  ctx.withBody Rule.idRecord.decoder fun id ↦
    ctx.answerId do
      Service.Rules.delete id
      return id

def deleteAnalysis (ctx : Context gate) : Work Response :=
  ctx.withBody Rule.idRecord.decoder fun id ↦
    ctx.answerId do
      Service.Analyses.delete id
      return id

def rawData (ctx : Context gate) : Work Response :=
  ctx.withForm Params.id fun id ↦
    ctx.answer do
      let records ← Service.Analyses.rawData id
      return .object [("records", records)]

/-- Asks for the metrics of a time range. -/
def rangeQuery {α : Type} (ctx : Context gate) (range : TimeRange) (toJson : α → Json)
    (q : Detector.Query α) : Work Response :=
  ctx.withRange range (ctx.answerQuery toJson q)

/-- The samples of a query. -/
def samplesJson (samples : List Metric.Sample) : Json :=
  .ofList Metric.Sample.toJson samples

def query (ctx : Context gate) : Work Response :=
  ctx.withForm Params.instant fun (expression, time) ↦
    ctx.withExpression expression do
      let time ← match time with
        | some time => pure time
        | none => Work.perform .clock
      ctx.answerQuery (·) (.instant expression time)

def queryRange (ctx : Context gate) : Work Response :=
  ctx.withForm Params.window fun (expression, range) ↦
    ctx.withExpression expression (ctx.rangeQuery range (·) (.window expression range))

def queryValidate (ctx : Context gate) : Work Response :=
  ctx.withForm Params.expression fun expression ↦
    ctx.withExpression expression
      (return respond (.plain ctx.trace "expression is valid"))

/-- What is done for an endpoint. -/
def handle (ctx : Context gate) : Endpoint → Work Response
  | .health => ctx.health
  | .listRules => ctx.listRows Rule.toJson Service.Rules.list
  | .ruleDetail => ctx.withForm Params.id fun id ↦ ctx.answer (Rule.toJson <$> Service.Rules.get id)
  | .createRule => ctx.createRule
  | .updateRule => ctx.updateRule
  | .deleteRule => ctx.deleteRule
  | .listAnalyses => ctx.listRows Analysis.toJson Service.Analyses.list
  | .deleteAnalysis => ctx.deleteAnalysis
  | .rawData => ctx.rawData
  | .targets => ctx.answerQuery Monitor.Targets.toJson .targets
  | .nodeInfo => ctx.withForm Params.machine fun machine ↦
      ctx.answerQuery (.ofList Monitor.NodeInfo.toJson) (.nodeInfo machine)
  | .nodeStatus => ctx.withForm Params.machine fun machine ↦
      ctx.answerQuery (.ofList Monitor.NodeStatus.toJson) (.nodeStatus machine)
  | .nodeResources => ctx.withForm Params.machineRange fun (machine, range) ↦
      ctx.rangeQuery range samplesJson (.nodeResources machine range)
  | .nodeContainerStatus => ctx.withForm Params.requiredMachine fun machine ↦
      ctx.answerQuery samplesJson (.nodeContainerStatus machine)
  | .clusterResources => ctx.withForm Params.range fun range ↦
      ctx.rangeQuery range samplesJson (.clusterResources range)
  | .clusterContainerStatus => ctx.withForm Params.range fun range ↦
      ctx.rangeQuery range samplesJson (.clusterContainerStatus range)
  | .query => ctx.query
  | .queryRange => ctx.queryRange
  | .queryValidate => ctx.queryValidate
  | .description => return .json 200 (Description.document title version)

end Context

end RuleWatch.Api
