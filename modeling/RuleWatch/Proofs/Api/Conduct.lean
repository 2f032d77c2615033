import RuleWatch.Proofs.Api.Reach
import RuleWatch.Proofs.Service.Conduct

/-!
# Proper handlers

A handler does nothing but proper steps, and what it says it says under the trace id of the request:
each envelope that it answers with tells this trace id.
-/

namespace RuleWatch

open Api (Context Endpoint)
open Http (Form Request Response)
open Listing
open Work

/-- Whatever the response says, it says under the trace id: its body is no JSON, or an envelope that
tells the trace id. -/
def Http.Response.IsTraced (trace : String) (response : Response) : Prop :=
  ∀ v, response.body = .json v → ∃ reply : Api.Reply, v = reply.toJson ∧ reply.trace = trace

namespace Api

/-- The endpoint is there to ask the detector for something. -/
def Endpoint.relays : Endpoint → Bool
  | rawData | targets | nodeInfo | nodeStatus | nodeResources | nodeContainerStatus
  | clusterResources | clusterContainerStatus | query | queryRange => true
  | _ => false

/-- Nothing is changed where the detector is asked for something. -/
theorem Endpoint.isMutation_of_relays {e : Endpoint} (h : e.relays) : e.isMutation = false := by
  revert h
  cases e <;> decide

/-- The endpoint may do such a call: if it is not there to ask for something, it tells the detector
that the rules have changed, and does no other. -/
def Endpoint.MayCall (e : Endpoint) (call : Detector.Call) : Prop :=
  e.relays = false → call = Detector.ruleSetChanged

theorem Reply.trace_ofResult (trace : String) (result : Except Failure Json) :
    (ofResult trace result).trace = trace := by
  cases result with
  | ok data => rfl
  | error failure => cases failure <;> rfl

namespace Context

variable {α : Type} {gate : Expression.Gate} {ctx : Context gate} {calls : Detector.Call → Prop}

theorem isTraced_respond {reply : Reply} : (respond reply).IsTraced reply.trace := by
  intro v hv
  exact ⟨reply, (Http.Body.json.inj hv).symm, rfl⟩

theorem isTraced_text {trace s : String} {status : Nat} :
    (Response.text status s).IsTraced trace := by
  intro v hv
  contradiction

/-- The work is proper under the trace id of the request, and so is what it answers. -/
abbrev IsProper (ctx : Context gate) (calls : Detector.Call → Prop) (work : Work Response) : Prop :=
  work.Confined (Step.IsProper gate calls ctx.trace) (Response.IsTraced ctx.trace)

/-! ## What a handler does -/

section Admits

variable {P : Step → Prop} {Q : Response → Prop}

/-- Steps and responses of some kinds are enough to look at the clock, to answer with what a service
does, and to say something else, in an envelope or as a text. -/
structure Admits (ctx : Context gate) (calls : Detector.Call → Prop) (P : Step → Prop)
    (Q : Response → Prop) : Prop where
  clock : P .clock
  answer : ∀ work : Attempt Json,
    (∀ trace, Service.IsProper gate calls trace work) → (ctx.answer work).Confined P Q
  reply : ∀ reply : Reply, reply.trace = ctx.trace → Q (respond reply)
  text : ∀ status s, Q (.text status s)

namespace Admits

theorem refuse {message : String} (h : ctx.Admits calls P Q) :
    (ctx.refuse message).Confined P Q :=
  Confined.pure (h.reply _ rfl)

theorem answerQuery {toJson : α → Json} {q : Detector.Query α} (h : ctx.Admits calls P Q)
    (hq : calls q.call) : (ctx.answerQuery toJson q).Confined P Q :=
  h.answer _ fun _ ↦ (Service.isProper_query hq).run_bind fun _ ↦ .run_pure

/-! ### Readers -/

theorem withForm {read : Form → Except Form.Fault α} {next : α → Work Response}
    (h : ctx.Admits calls P Q) (hnext : ∀ a, (next a).Confined P Q) :
    (ctx.withForm read next).Confined P Q := by
  unfold Context.withForm
  split
  · exact hnext _
  · exact Confined.pure (h.text ..)

theorem withBody {d : Json.Decoder α} {next : α → Work Response} (h : ctx.Admits calls P Q)
    (hnext : ∀ a, (next a).Confined P Q) : (ctx.withBody d next).Confined P Q := by
  unfold Context.withBody
  split
  · split
    · exact hnext _
    next fault _ => cases fault <;> exact Confined.pure (h.text ..)
  · exact Confined.pure (h.text ..)

theorem withExpression {expression : String} {next : Work Response} (h : ctx.Admits calls P Q)
    (hnext : next.Confined P Q) : (ctx.withExpression expression next).Confined P Q := by
  unfold Context.withExpression
  split
  · exact hnext
  · exact h.refuse

theorem rangeQuery {range : TimeRange} {toJson : α → Json} {q : Detector.Query α}
    (h : ctx.Admits calls P Q) (hq : calls q.call) :
    (ctx.rangeQuery range toJson q).Confined P Q := by
  unfold Context.rangeQuery withRange
  split
  · exact h.answerQuery hq
  · exact h.refuse

theorem listRows {φ ρ : Type} [Column φ ρ] {toJson : ρ → Json}
    {work : Option String → Order φ → Page → Attempt (List ρ × Nat)} (h : ctx.Admits calls P Q)
    (hwork : ∀ needle order page trace,
      Service.IsProper gate calls trace (work needle order page)) :
    (ctx.listRows toJson work).Confined P Q := by
  refine h.withForm fun params ↦ ?_
  split
  · exact h.refuse
  · split
    · exact h.refuse
    · exact h.answer _ fun _ ↦ (hwork _ _ _ _).run_bind fun _ ↦ .run_pure

/-! ### Endpoints -/

/-- Nothing else is done for an endpoint, but for the description of the service, which is said
neither in an envelope nor as a text. -/
theorem handle {e : Endpoint} (h : ctx.Admits e.MayCall P Q) (he : e ≠ .description) :
    (ctx.handle e).Confined P Q := by
  have hany : ∀ {e : Endpoint}, e.relays → ∀ call, e.MayCall call := by
    intro e h call hrelays
    rw [h] at hrelays
    contradiction
  have htell : ∀ {e : Endpoint}, e.MayCall Detector.ruleSetChanged := fun _ ↦ rfl
  cases e with
  | health => exact ⟨h.clock, fun now ↦ h.reply _ rfl⟩
  | listRules => exact h.listRows fun _ _ _ _ ↦ Service.Rules.isProper_list
  | listAnalyses => exact h.listRows fun _ _ _ _ ↦ Service.Analyses.isProper_list
  | ruleDetail =>
    exact h.withForm fun id ↦ h.answer _ fun _ ↦ Service.Rules.isProper_get.run_map
  | createRule =>
    refine h.withBody fun draft ↦ h.answer _ fun _ ↦ .run_map ?_
    exact (Service.Rules.isProper_create htell).run_bind fun _ ↦ .run_pure
  | updateRule =>
    refine h.withBody fun (id, changes) ↦ h.answer _ fun _ ↦ .run_map ?_
    exact (Service.Rules.isProper_update htell).run_bind fun _ ↦ .run_pure
  | deleteRule =>
    refine h.withBody fun id ↦ h.answer _ fun _ ↦ .run_map ?_
    exact (Service.Rules.isProper_delete htell).run_bind fun _ ↦ .run_pure
  | deleteAnalysis =>
    refine h.withBody fun id ↦ h.answer _ fun _ ↦ .run_map ?_
    exact Service.Analyses.isProper_delete.run_bind fun _ ↦ .run_pure
  | rawData =>
    refine h.withForm fun id ↦ h.answer _ fun _ ↦ ?_
    exact (Service.Analyses.isProper_rawData (hany rfl)).run_bind fun _ ↦ .run_pure
  | targets => exact h.answerQuery (hany rfl _)
  | nodeInfo | nodeStatus | nodeContainerStatus =>
    exact h.withForm fun _ ↦ h.answerQuery (hany rfl _)
  | nodeResources | clusterResources | clusterContainerStatus =>
    exact h.withForm fun _ ↦ h.rangeQuery (hany rfl _)
  | query =>
    refine h.withForm fun (expression, time) ↦ h.withExpression ?_
    cases time with
    | some time => exact h.answerQuery (hany rfl _)
    | none => exact ⟨h.clock, fun now ↦ h.answerQuery (hany rfl _)⟩
  | queryRange =>
    exact h.withForm fun _ ↦ h.withExpression (h.rangeQuery (hany rfl _))
  | queryValidate =>
    exact h.withForm fun _ ↦ h.withExpression (Confined.pure (h.reply _ rfl))
  | description => contradiction

end Admits

end Admits

/-! ## Proper answers -/

/-- What is written in the journal of a failure is written under the trace id. -/
theorem isProper_eventOfFailure {failure : Failure} {event : Journal.Event}
    (h : Reply.eventOfFailure? ctx.trace failure = some event) :
    (Step.log event).IsProper gate calls ctx.trace := by
  intro t ht
  cases failure with
  | unavailable f | undecodable f | store f =>
    cases h
    exact (Option.some.inj ht).symm
  | _ => contradiction

theorem isProper_conclude (result : Except Failure Json) :
    ctx.IsProper calls (ctx.conclude result) := by
  have hreply : (respond (.ofResult ctx.trace result)).IsTraced ctx.trace := by
    have htraced : (respond _).IsTraced (Reply.ofResult ctx.trace result).trace := isTraced_respond
    rwa [Reply.trace_ofResult] at htraced
  cases result with
  | ok data => exact hreply
  | error failure =>
    rw [conclude]
    cases hevent : Reply.eventOfFailure? ctx.trace failure with
    | none => exact hreply
    | some event => exact ⟨isProper_eventOfFailure hevent, fun _ ↦ hreply⟩

/-- All that is done for an endpoint is proper. The description of the service is not said under a
trace id. -/
theorem isProper_handle {e : Endpoint} (he : e ≠ .description) :
    ctx.IsProper e.MayCall (ctx.handle e) := by
  refine Admits.handle ?_ he
  constructor
  case clock => trivial
  case answer =>
    intro work hwork
    rw [answer_eq_bind]
    exact (hwork ctx.trace).bind fun result _ ↦ isProper_conclude result
  case reply =>
    intro reply htrace
    exact htrace ▸ isTraced_respond
  case text =>
    intro status s
    exact isTraced_text

end Context

end Api

/-! ## The server -/

/-- What a response to the request may carry: an envelope that tells the trace id, or the
description of the service. -/
def Http.Request.MayCarry (r : Request) (trace : String) (response : Response) : Prop :=
  response.IsTraced trace ∨
    r.path = Endpoint.description.path ∧
      response.body = .json (Api.Description.document Api.title Api.version)

/-- The request may do such a call if its endpoint may. -/
def Http.Request.MayCall (r : Request) (call : Detector.Call) : Prop :=
  ∀ e : Endpoint, r.path = e.path → e.MayCall call

namespace Server

variable {gate : Expression.Gate} {trace : String} {r : Request}

/-- The answer to a request is found in proper steps, and tells the trace id. -/
theorem confined_respond (server : Server gate) (trace : String) (r : Request) :
    (server.respond trace r).Confined (Step.IsProper gate r.MayCall trace)
      (r.MayCarry trace) := by
  have hnone : ∀ {response : Response}, response.body = .none → r.MayCarry trace response :=
    fun hbody ↦ .inl fun v hv ↦ by simp [hbody] at hv
  by_cases hreached : ∃ e : Endpoint, r.path = e.path ∧ e.allows r.method
  · obtain ⟨e, hpath, hallows⟩ := hreached
    have hmay : ∀ call, e.MayCall call → r.MayCall call := by
      intro call hcall e' hpath'
      have hfound := Endpoint.ofPath?_eq_some_iff.mpr hpath
      rw [Endpoint.ofPath?_eq_some_iff.mpr hpath'] at hfound
      exact Option.some.inj hfound ▸ hcall
    have hhandle : ((server.context trace r).handle e).Confined
        (Step.IsProper gate r.MayCall trace) (r.MayCarry trace) := by
      by_cases he : e = .description
      · subst he
        exact Confined.pure (.inr ⟨hpath, rfl⟩)
      · exact (Context.isProper_handle he).mono (fun s hs ↦ hs.mono hmay) fun response h ↦ .inl h
    rw [respond_of_allows server trace hpath hallows]
    refine (hhandle.bind (R := r.MayCarry trace) fun response h ↦ Confined.pure ?_).bind
      fun _ h ↦ Confined.pure h
    split
    · exact hnone rfl
    · exact h
  · have hunreached : ∀ e : Endpoint, r.path = e.path → e.allows r.method = false :=
      fun e hpath ↦ Bool.eq_false_iff.mpr fun hallows ↦ hreached ⟨e, hpath, hallows⟩
    obtain ⟨response, hbody, heq⟩ := respond_of_unreached server trace hunreached
    rw [heq]
    exact Confined.pure (hnone hbody)

/-- All that is done for a request is proper, under some trace id. -/
theorem confined_serve (server : Server gate) (r : Request) :
    (server.serve r).Confined (fun s ↦ ∃ trace, s.IsProper gate r.MayCall trace)
      fun _ ↦ True := by
  have hlog : ∀ {event : Journal.Event} {trace : String}, event.trace? = some trace →
      ∃ trace, (Step.log event).IsProper gate r.MayCall trace :=
    fun hevent ↦ ⟨_, fun t ht ↦ Option.some.inj (ht.symm.trans hevent)⟩
  unfold serve
  refine Confined.bind (Q := fun _ ↦ True) ?_ fun trace _ ↦ ?_
  · unfold Http.Trace.ofRequest
    split
    · exact Confined.pure trivial
    · exact ⟨⟨"", trivial⟩, fun _ ↦ trivial⟩
  · split
    · exact ⟨hlog rfl, fun _ ↦ trivial⟩
    · refine ⟨hlog rfl, fun _ ↦ ?_⟩
      refine ((confined_respond server trace r).mono (fun s hs ↦ ⟨trace, hs⟩)
        fun _ _ ↦ trivial).bind fun response _ ↦ ⟨hlog rfl, fun _ ↦ trivial⟩

end Server

end RuleWatch
