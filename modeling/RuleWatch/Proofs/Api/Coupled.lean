import RuleWatch.Proofs.Api.Serve
import RuleWatch.Proofs.Service.Coupled

/-!
# Handlers under two detectors

Two runs of one request may have different detectors and different trace ids. Its responses differ
in nothing but the trace ids, unless the endpoint asks the detector; and if the endpoint changes
rules, they differ in more only if both tell that the change is kept.
-/

namespace RuleWatch

open Http (Form Response)
open Listing
open Work

/-! ## Responses -/

/-- The value with a trace id in place of its own. -/
def Json.withTrace (trace : String) : Json → Json
  | .object members =>
    .object (members.map fun m ↦ if m.1 = "trace_id" then (m.1, .string trace) else m)
  | v => v

namespace Http

def Body.withTrace (trace : String) : Body → Body
  | .json v => .json (v.withTrace trace)
  | body => body

namespace Response

/-- The response with a trace id in place of its own. -/
def withTrace (trace : String) (r : Response) : Response :=
  ⟨r.status, r.headers.map fun h ↦ if h.1 = Trace.header then (h.1, trace) else h,
    r.body.withTrace trace⟩

/-- Two responses under trace ids of their own: they differ in nothing but the trace ids. -/
structure Alike (trace trace' : String) (r r' : Response) : Prop where
  withTrace_eq : ∀ t, r.withTrace t = r'.withTrace t
  eq_of_trace_eq : trace = trace' → r = r'

/-- The response tells that a change is kept, with the id of the rule, whether the detector has
acknowledged it or not. -/
def Keeps (id : Int) (r : Response) : Prop :=
  ∃ reply : Api.Reply, r.Carries reply ∧ reply.data = .object [("id", .ofInt id)] ∧
    (reply.status = 200 ∧ reply.code = 0 ∨ reply.status = 202 ∧ reply.code = 1201)

variable {trace trace' : String} {r r' : Response}

theorem Alike.refl (r : Response) : Alike trace trace' r r :=
  ⟨fun _ ↦ rfl, fun _ ↦ rfl⟩

/-- Other headers may be left out before or after. -/
theorem filter_map_header (headers : List (String × String)) (name t : String) :
    (headers.map fun h ↦ if h.1 = Trace.header then (h.1, t) else h).filter (fun h ↦ h.1 != name) =
      (headers.filter fun h ↦ h.1 != name).map
        fun h ↦ if h.1 = Trace.header then (h.1, t) else h := by
  rw [List.filter_map]
  congr 2
  funext h
  dsimp only [Function.comp]
  split <;> rfl

theorem withTrace_setHeader {name : String} (h : name ≠ Trace.header) (value t : String) :
    (r.setHeader name value).withTrace t = (r.withTrace t).setHeader name value := by
  simp [setHeader, withTrace, filter_map_header, h]

theorem withTrace_setTrace (trace t : String) :
    (r.setHeader Trace.header trace).withTrace t = (r.withTrace t).setHeader Trace.header t := by
  simp [setHeader, withTrace, filter_map_header]

theorem Alike.setHeader (h : Alike trace trace' r r') {name : String} (hname : name ≠ Trace.header)
    (value : String) : Alike trace trace' (r.setHeader name value) (r'.setHeader name value) where
  withTrace_eq t := by
    rw [withTrace_setHeader hname, withTrace_setHeader hname, h.withTrace_eq]
  eq_of_trace_eq heq := by rw [h.eq_of_trace_eq heq]

theorem Alike.setTrace (h : Alike trace trace' r r') :
    Alike trace trace' (r.setHeader Trace.header trace) (r'.setHeader Trace.header trace') where
  withTrace_eq t := by rw [withTrace_setTrace, withTrace_setTrace, h.withTrace_eq]
  eq_of_trace_eq heq := by rw [h.eq_of_trace_eq heq, heq]

theorem Alike.withoutBody (h : Alike trace trace' r r') :
    Alike trace trace' r.withoutBody r'.withoutBody where
  withTrace_eq t := by
    have heq : (r.withTrace t).withoutBody = (r'.withTrace t).withoutBody := by rw [h.withTrace_eq]
    exact heq
  eq_of_trace_eq heq := by rw [h.eq_of_trace_eq heq]

end Response

end Http

namespace Api

open Http.Response (Alike)
open Service (Concur announced)

/-- The endpoint asks the detector, or tells it something. -/
def Endpoint.asksDetector : Endpoint → Bool
  | health | listRules | ruleDetail | listAnalyses | deleteAnalysis | queryValidate | description =>
    false
  | _ => true

/-- Replies to one result differ in nothing but the trace ids. -/
theorem Reply.alike_ofResult (trace trace' : String) (result : Except Failure Json) :
    Alike trace trace' (Context.respond (.ofResult trace result))
      (Context.respond (.ofResult trace' result)) where
  withTrace_eq t := by
    cases result with
    | ok data => rfl
    | error failure => cases failure <;> rfl
  eq_of_trace_eq heq := by rw [heq]

theorem Reply.alike_failure (code : Code) (trace trace' message : String) :
    Alike trace trace' (Context.respond (.failure code trace message))
      (Context.respond (.failure code trace' message)) where
  withTrace_eq _ := rfl
  eq_of_trace_eq heq := by rw [heq]

/-- What two runs of a request to an endpoint may answer. -/
def MayAnswer (e : Endpoint) (trace trace' : String) (r r' : Response) : Prop :=
  Alike trace trace' r r' ∨
    e.asksDetector ∧ (e.changesRules → ∃ id, r.Keeps id ∧ r'.Keeps id)

namespace Context

variable {gate : Expression.Gate}

/-- The same request under another trace id. -/
def traced (ctx : Context gate) (trace : String) : Context gate :=
  { ctx with trace }

@[simp] theorem traced_request (ctx : Context gate) (trace : String) :
    (ctx.traced trace).request = ctx.request := rfl

variable {α : Type} {ctx : Context gate} {trace' : String}

/-! ## Answers -/

/-- Once there is a result nothing more is done with the store. -/
theorem detached_conclude (ctx : Context gate) (result : Except Failure Json) :
    (ctx.conclude result).Detached fun response ↦
      response = respond (.ofResult ctx.trace result) := by
  obtain heq | ⟨event, heq⟩ := ctx.conclude_cases result
  · rw [heq]
    rfl
  · rw [heq]
    exact ⟨rfl, fun _ ↦ rfl⟩

/-- The responses are the replies to the results. -/
theorem coupled_answer {P : Except Failure Json → Except Failure Json → Prop} {work : Attempt Json}
    (h : Coupled P work.run work.run) {R : Response → Response → Prop}
    (hR : ∀ result result', P result result' →
      R (respond (.ofResult ctx.trace result)) (respond (.ofResult trace' result'))) :
    Coupled R (ctx.answer work) ((ctx.traced trace').answer work) := by
  rw [answer_eq_bind, answer_eq_bind]
  refine h.bind fun result result' hresult ↦ ?_
  refine ((ctx.detached_conclude result).coupled
    ((ctx.traced trace').detached_conclude result')).mono ?_
  rintro _ _ ⟨rfl, rfl⟩
  exact hR result result' hresult

theorem coupled_answer_of_isSteady {work : Attempt Json} (h : work.run.IsSteady) :
    Coupled (Alike ctx.trace trace') (ctx.answer work) ((ctx.traced trace').answer work) := by
  refine coupled_answer h ?_
  rintro result _ rfl
  exact Reply.alike_ofResult ctx.trace trace' result

theorem coupled_answerQuery {toJson : α → Json} {q : Detector.Query α} :
    Coupled (fun _ _ ↦ True) (ctx.answerQuery toJson q)
      ((ctx.traced trace').answerQuery toJson q) := by
  have hquery : (toJson <$> Service.query q).run.Detached fun _ ↦ True :=
    (Service.detached_query q).bind fun result _ ↦ by cases result <;> trivial
  exact coupled_answer ((hquery.coupled hquery).mono fun _ _ _ ↦ trivial) fun _ _ _ ↦ trivial

/-- The reply to a change that has been kept says so, whatever the detector has answered. -/
theorem keeps_respond_announced (trace : String) (id : Int) (answer : Option Bytes) :
    (respond (.ofResult trace (announced id answer (Reply.idData id)))).Keeps id := by
  have hcarries : (respond (.ofResult trace (announced id answer (Reply.idData id)))).Carries
      (.ofResult trace (announced id answer (Reply.idData id))) := ⟨rfl, rfl⟩
  obtain ⟨reply, hreply, hdata, hcode⟩ := exists_carries_announced hcarries
  exact ⟨reply, hreply, hdata, hcode.imp And.right And.right⟩

/-- A result that is an id is answered alike, or both answers tell that the change is kept. -/
theorem coupled_answerId {e : Endpoint} (he : e.asksDetector) {work : Attempt Int}
    (h : Coupled (Concur fun id ↦ id) work.run work.run) :
    Coupled (MayAnswer e ctx.trace trace') (ctx.answerId work)
      ((ctx.traced trace').answerId work) := by
  have hdata : Coupled
      (fun result result' ↦ result = result' ∨ ∃ id answer answer',
        result = announced id answer (Reply.idData id) ∧
          result' = announced id answer' (Reply.idData id))
      (Reply.idData <$> work).run (Reply.idData <$> work).run := by
    refine h.map ?_
    rintro _ _ (rfl | ⟨id, answer, answer', rfl, rfl⟩)
    · exact .inl rfl
    · exact .inr ⟨id, answer, answer', Service.map_announced .., Service.map_announced ..⟩
  refine coupled_answer hdata ?_
  rintro _ _ (rfl | ⟨id, answer, answer', rfl, rfl⟩)
  · exact .inl (Reply.alike_ofResult ..)
  · exact .inr ⟨he, fun _ ↦ ⟨id, keeps_respond_announced .., keeps_respond_announced ..⟩⟩

/-! ## Readers -/

section Readers

variable {P : Work Response → Work Response → Prop} {R : Response → Response → Prop}
  {expression : String} {range : TimeRange}

/-- Two runs read the same parameters, and go on from there or are refused. -/
theorem relate_withForm (hP : ∀ response, P (pure response) (pure response))
    {read : Form → Except Form.Fault α} {next next' : α → Work Response}
    (h : ∀ a, P (next a) (next' a)) :
    P (ctx.withForm read next) ((ctx.traced trace').withForm read next') := by
  rw [withForm, withForm, traced_request]
  cases read (Form.ofText ctx.request.formText) with
  | ok a => exact h a
  | error fault => exact hP _

/-- Two runs read the same body. -/
theorem relate_withBody (hP : ∀ response, P (pure response) (pure response)) {d : Json.Decoder α}
    {next next' : α → Work Response} (h : ∀ a, P (next a) (next' a)) :
    P (ctx.withBody d next) ((ctx.traced trace').withBody d next') := by
  rw [withBody, withBody, traced_request]
  split
  · cases d.ofBytes ctx.request.body with
    | ok a => exact h a
    | error fault => exact hP _
  · exact hP _

theorem relate_withExpression
    (hP : ∀ message, P (ctx.refuse message) ((ctx.traced trace').refuse message))
    {next next' : Work Response} (h : P next next') :
    P (ctx.withExpression expression next)
      ((ctx.traced trace').withExpression expression next') := by
  rw [withExpression, withExpression]
  cases gate expression with
  | ok _ => exact h
  | error fault => exact hP _

theorem relate_withRange
    (hP : ∀ message, P (ctx.refuse message) ((ctx.traced trace').refuse message))
    {next next' : Work Response} (h : P next next') :
    P (ctx.withRange range next) ((ctx.traced trace').withRange range next') := by
  rw [withRange, withRange]
  cases range.check with
  | ok _ => exact h
  | error fault => exact hP _

theorem coupled_withForm (hR : ∀ response, R response response) {read : Form → Except Form.Fault α}
    {next next' : α → Work Response} (h : ∀ a, Coupled R (next a) (next' a)) :
    Coupled R (ctx.withForm read next) ((ctx.traced trace').withForm read next') :=
  relate_withForm (fun response ↦ .done (hR response)) h

theorem coupled_withBody (hR : ∀ response, R response response) {d : Json.Decoder α}
    {next next' : α → Work Response} (h : ∀ a, Coupled R (next a) (next' a)) :
    Coupled R (ctx.withBody d next) ((ctx.traced trace').withBody d next') :=
  relate_withBody (fun response ↦ .done (hR response)) h

/-- Two runs are refused alike. -/
theorem coupled_refuse (hR : ∀ r r', Alike ctx.trace trace' r r' → R r r') (message : String) :
    Coupled R (ctx.refuse message) ((ctx.traced trace').refuse message) :=
  .done (hR _ _ (Reply.alike_failure .badRequest ctx.trace trace' message))

theorem coupled_withExpression (hR : ∀ r r', Alike ctx.trace trace' r r' → R r r')
    {next next' : Work Response} (h : Coupled R next next') :
    Coupled R (ctx.withExpression expression next)
      ((ctx.traced trace').withExpression expression next') :=
  relate_withExpression (coupled_refuse hR) h

theorem coupled_listRows {φ ρ : Type} [Column φ ρ] {toJson : ρ → Json}
    {work : Option String → Order φ → Page → Attempt (List ρ × Nat)}
    (h : ∀ needle order page, (work needle order page).run.IsSteady) :
    Coupled (Alike ctx.trace trace') (ctx.listRows toJson work)
      ((ctx.traced trace').listRows toJson work) := by
  refine coupled_withForm .refl fun params ↦ ?_
  cases params.page with
  | error fault => exact coupled_refuse (fun _ _ ↦ id) _
  | ok page =>
    cases params.order φ with
    | error message => exact coupled_refuse (fun _ _ ↦ id) _
    | ok order => exact coupled_answer_of_isSteady ((h _ _ _).run_bind fun _ ↦ .run_pure)

theorem coupled_rangeQuery {toJson : α → Json} {q : Detector.Query α} :
    Coupled (fun _ _ ↦ True) (ctx.rangeQuery range toJson q)
      ((ctx.traced trace').rangeQuery range toJson q) :=
  relate_withRange (coupled_refuse fun _ _ _ ↦ trivial) coupled_answerQuery

end Readers

/-! ## Endpoints -/

/-- An endpoint that asks the detector and changes no rules may answer anything. -/
theorem coupled_of_asksDetector {e : Endpoint} (he : e.asksDetector)
    (hrules : e.changesRules = false) {work work' : Work Response}
    (h : Coupled (fun _ _ ↦ True) work work') :
    Coupled (MayAnswer e ctx.trace trace') work work' := by
  refine h.mono fun _ _ _ ↦ .inr ⟨he, fun hchanges ↦ ?_⟩
  rw [hrules] at hchanges
  contradiction

/-- Two runs of what is done for an endpoint. -/
theorem coupled_handle (ctx : Context gate) (trace' : String) (e : Endpoint) :
    Coupled (MayAnswer e ctx.trace trace') (ctx.handle e) ((ctx.traced trace').handle e) := by
  have hrefl : ∀ {e : Endpoint} response, MayAnswer e ctx.trace trace' response response :=
    fun response ↦ .inl (.refl response)
  cases e with
  | health =>
    refine (IsSteady.perform rfl).bind_coupled fun now ↦ .done (.inl ?_)
    exact Reply.alike_ofResult ctx.trace trace' (.ok _)
  | listRules | listAnalyses =>
    refine (coupled_listRows fun _ _ _ ↦ ?_).mono fun _ _ ↦ .inl
    exact (Service.isSteady_store _).run_bind fun _ ↦ Service.isSteady_ofStore
  | ruleDetail =>
    refine coupled_withForm hrefl fun id ↦ ?_
    refine (coupled_answer_of_isSteady ?_).mono fun _ _ ↦ .inl
    exact (Service.Rules.isSteady_get id).run_bind fun _ ↦ .run_pure
  | createRule =>
    refine coupled_withBody hrefl fun draft ↦ coupled_answerId rfl ?_
    exact (Service.Rules.coupled_create _ draft).map fun _ _ h ↦ h.map fun _ ↦ rfl
  | updateRule =>
    refine coupled_withBody hrefl fun (id, changes) ↦ coupled_answerId rfl ?_
    exact (Service.Rules.coupled_update _ id changes).map fun _ _ h ↦ h.map fun _ ↦ rfl
  | deleteRule =>
    refine coupled_withBody hrefl fun id ↦ coupled_answerId rfl ?_
    exact (Service.Rules.coupled_delete id).map fun _ _ h ↦ h.map fun _ ↦ rfl
  | deleteAnalysis =>
    refine coupled_withBody hrefl fun id ↦ (coupled_answer_of_isSteady ?_).mono fun _ _ ↦ .inl
    refine IsSteady.run_bind ?_ fun _ ↦ .run_pure
    exact (Service.Analyses.isSteady_delete id).run_bind fun _ ↦ .run_pure
  | rawData =>
    refine coupled_of_asksDetector rfl rfl (coupled_withForm (fun _ ↦ trivial) fun id ↦ ?_)
    exact coupled_answer (P := fun _ _ ↦ True)
      ((Service.Analyses.coupled_rawData id).map fun _ _ _ ↦ trivial) fun _ _ _ ↦ trivial
  | targets => exact coupled_of_asksDetector rfl rfl coupled_answerQuery
  | nodeInfo | nodeStatus | nodeContainerStatus =>
    exact coupled_of_asksDetector rfl rfl
      (coupled_withForm (fun _ ↦ trivial) fun _ ↦ coupled_answerQuery)
  | nodeResources | clusterResources | clusterContainerStatus =>
    exact coupled_of_asksDetector rfl rfl
      (coupled_withForm (fun _ ↦ trivial) fun _ ↦ coupled_rangeQuery)
  | query =>
    refine coupled_of_asksDetector rfl rfl
      (coupled_withForm (fun _ ↦ trivial) fun (expression, time) ↦ ?_)
    refine coupled_withExpression (fun _ _ _ ↦ trivial) ?_
    cases time with
    | some time => exact coupled_answerQuery
    | none => exact (IsSteady.perform rfl).bind_coupled fun _ ↦ coupled_answerQuery
  | queryRange =>
    exact coupled_of_asksDetector rfl rfl (coupled_withForm (fun _ ↦ trivial) fun _ ↦
      coupled_withExpression (fun _ _ _ ↦ trivial) coupled_rangeQuery)
  | queryValidate =>
    refine coupled_withForm hrefl fun expression ↦ coupled_withExpression (fun _ _ ↦ .inl) ?_
    exact .done (.inl ⟨fun _ ↦ rfl, fun heq ↦ heq ▸ rfl⟩)
  | description => exact .done (hrefl _)

end Context

end Api

end RuleWatch
