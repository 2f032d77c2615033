import RuleWatch.Proofs.Api.Quiet
import RuleWatch.Proofs.Service.Mutation

/-!
# Handlers that change something

What comes of a request to change something, from the reading of its body to the reply: either
nothing, and the reply says so, or one change, which the detector is told of if it is one of the
rules. The reply tells whether the detector has acknowledged.
-/

namespace RuleWatch

/-- The response says what the reply says: its code, its message, its trace id and its data, under
its status. -/
def Http.Response.Carries (response : Response) (reply : Api.Reply) : Prop :=
  response.status = reply.status ∧ response.body = .json (.object
    [("code", .ofNat reply.code), ("message", .string reply.message),
      ("trace_id", .string reply.trace), ("data", reply.data)])

namespace Api

open Detector (ruleSetChanged)
open Http (Response)
open Service (Refused Announced announced)
open Work

/-- The endpoint is there to change rules. -/
def Endpoint.changesRules : Endpoint → Bool
  | createRule | updateRule | deleteRule => true
  | _ => false

theorem Endpoint.isMutation_of_changesRules {e : Endpoint} (h : e.changesRules) : e.isMutation := by
  cases e <;> first | rfl | contradiction

/-- The reply to a result. -/
def Reply.ofResult (trace : String) : Except Failure Json → Reply
  | .ok data => success trace data
  | .error failure => ofFailure trace failure

/-- Of all failures only the one to announce a change looks like a success. -/
theorem Reply.status_ofFailure {trace : String} {failure : Failure}
    (h : ∀ id f, failure ≠ .unannounced id f) :
    (ofFailure trace failure).status ≠ 200 ∧ (ofFailure trace failure).status ≠ 202 := by
  cases failure with
  | unannounced id f => exact absurd rfl (h id f)
  | _ => simp [ofFailure, failureWith, Reply.failure, Code.status]

/-- What comes of a request that may have been posted to an endpoint. -/
inductive Concludes (posted : Option Endpoint) (deeds : List Deed) (response : Response) : Prop
  /-- Nothing was changed, and no one was told. -/
  | refused (heffects : effects deeds = [])
    (hstatus : ∀ e, posted = some e → e.isMutation → response.status ≠ 200 ∧ response.status ≠ 202)
  /-- A rule was changed, and then the detector was told. -/
  | announced {e : Endpoint} {write : Deed} {id : Int} {answer : Option Bytes} {trace : String}
    (hposted : posted = some e) (he : e.changesRules) (hwrite : write.changed? = some (.rule, id))
    (heffects : effects deeds = [write, ⟨.ask ruleSetChanged, answer⟩])
    (hreply : response.Carries (.ofResult trace (announced id answer (Reply.idData id))))
  /-- An analysis result was deleted. -/
  | deleted {write : Deed} {id : Int} (hposted : posted = some .deleteAnalysis)
    (hwrite : write.changed? = some (.analysis, id)) (heffects : effects deeds = [write])
    (hstatus : response.status = 200)

/-- Only the effects count, and the status and the body of the response. -/
theorem Concludes.congr {posted : Option Endpoint} {deeds deeds' : List Deed}
    {response response' : Response} (h : Concludes posted deeds response)
    (heffects : effects deeds' = effects deeds) (hstatus : response'.status = response.status)
    (hbody : response'.body = response.body) : Concludes posted deeds' response' := by
  cases h with
  | refused hnone hfailed =>
    exact .refused (heffects.trans hnone) fun e he hmutation ↦ hstatus ▸ hfailed e he hmutation
  | announced hposted he hwrite hdone hreply =>
    exact .announced hposted he hwrite (heffects.trans hdone)
      ⟨hstatus.trans hreply.1, hbody.trans hreply.2⟩
  | deleted hposted hwrite hdone hok =>
    exact .deleted hposted hwrite (heffects.trans hdone) (hstatus.trans hok)

namespace Context

variable {α : Type} {gate : Expression.Gate} {ctx : Context gate} {deeds : List Deed}
  {may : List Deed → Step → Prop}

/-- A result is answered with its reply, perhaps after an entry in the journal. -/
theorem conclude_cases (ctx : Context gate) (result : Except Failure Json) :
    ctx.conclude result = .done (respond (.ofResult ctx.trace result)) ∨
      ∃ event, ctx.conclude result =
        .step (.log event) fun _ ↦ .done (respond (.ofResult ctx.trace result)) := by
  cases result with
  | ok data => exact .inl rfl
  | error failure =>
    rw [conclude]
    cases Reply.eventOfFailure? ctx.trace failure with
    | none => exact .inl rfl
    | some event => exact .inr ⟨event, rfl⟩

/-- A result is answered without further effects. -/
theorem keeps_answer {ends : List Deed → Except Failure Json → Prop} {work : Attempt Json}
    (h : Keeps may ends deeds work.run) :
    Keeps (fun _ _ ↦ True)
      (fun deeds' response ↦ ∃ before result, ends before result ∧
        effects deeds' = effects before ∧ response = respond (.ofResult ctx.trace result))
      deeds (ctx.answer work) := by
  rw [answer_eq_bind, keeps_bind]
  refine h.mono (fun _ _ _ ↦ trivial) fun before result hend ↦ ?_
  obtain heq | ⟨event, heq⟩ := ctx.conclude_cases result
  · rw [heq]
    exact ⟨before, result, hend, rfl, rfl⟩
  · rw [heq]
    exact ⟨trivial, fun _ ↦ ⟨before, result, hend, by simp, rfl⟩⟩

/-- A body that cannot be read is answered with a status of its own. -/
theorem keeps_withBody {ends : List Deed → Response → Prop} {d : Json.Decoder α}
    {next : α → Work Response} (hnext : ∀ a, Keeps may ends deeds (next a))
    (hrefused : ∀ response : Response, response.status ≠ 200 ∧ response.status ≠ 202 →
      ends deeds response) : Keeps may ends deeds (ctx.withBody d next) := by
  unfold withBody
  split
  · split
    · exact hnext _
    next fault _ =>
      refine hrefused _ ?_
      cases fault <;> exact ⟨by decide, by decide⟩
  · exact hrefused _ ⟨by decide, by decide⟩

/-- A result that is an id is answered with the id, and a failure with a failure. -/
theorem keeps_answerId {posted : Option Endpoint} {work : Attempt Int}
    (h : Keeps may
      (fun deeds result ↦
        Concludes posted deeds (respond (.ofResult ctx.trace (Reply.idData <$> result))))
      deeds work.run) :
    Keeps (fun _ _ ↦ True) (Concludes posted) deeds (ctx.answerId work) := by
  have hdata : Keeps may
      (fun deeds result ↦ Concludes posted deeds (respond (.ofResult ctx.trace result)))
      deeds (Reply.idData <$> work).run := h.map fun _ _ hend ↦ hend
  refine (keeps_answer hdata).imp ?_
  rintro deeds' response ⟨before, result, hend, heffects, rfl⟩
  exact hend.congr heffects rfl rfl

/-- What was refused is answered with a failure. -/
theorem concludes_of_refused {posted : Option Endpoint} {result : Except Failure Json}
    (h : Refused deeds result) :
    Concludes posted deeds (respond (.ofResult ctx.trace result)) := by
  obtain ⟨heffects, failure, rfl, hfailure⟩ := h
  exact .refused heffects fun _ _ _ ↦ Reply.status_ofFailure hfailure

/-- A change of a rule is answered with the id of the rule. -/
theorem concludes_of_announced {e : Endpoint} (he : e.changesRules) {id : Int}
    {result : Except Failure Json} (h : Announced deeds id (Reply.idData id) result) :
    Concludes (some e) deeds (respond (.ofResult ctx.trace result)) := by
  obtain ⟨write, answer, hwrite, heffects, rfl⟩ := h
  exact .announced rfl he hwrite heffects ⟨rfl, rfl⟩

/-- What comes of a request to change something, once it has reached its endpoint. -/
theorem keeps_handle {e : Endpoint} (he : e.isMutation) (h : effects deeds = []) :
    Keeps (fun _ _ ↦ True) (Concludes (some e)) deeds (ctx.handle e) := by
  have hunread : ∀ response : Response, response.status ≠ 200 ∧ response.status ≠ 202 →
      Concludes (some e) deeds response := fun _ hstatus ↦ .refused h fun _ _ _ ↦ hstatus
  have hsettled : e.changesRules → ∀ deeds result, Service.Rules.Settled deeds result →
      Concludes (some e) deeds
        (respond (.ofResult ctx.trace (Reply.idData <$> Rule.id <$> result))) := by
    rintro hrules deeds result (hrefused | ⟨rule, hannounced⟩)
    · exact concludes_of_refused ((hrefused.map _).map _)
    · exact concludes_of_announced hrules ((hannounced.map _).map _)
  cases e with
  | createRule =>
    refine keeps_withBody (fun draft ↦ ?_) hunread
    exact keeps_answerId ((Service.Rules.keeps_create h).map (hsettled rfl))
  | updateRule =>
    refine keeps_withBody (fun (id, changes) ↦ ?_) hunread
    exact keeps_answerId ((Service.Rules.keeps_update h).map (hsettled rfl))
  | deleteRule =>
    refine keeps_withBody (fun id ↦ ?_) hunread
    refine keeps_answerId
      ((Service.Rules.keeps_delete gate h).map fun deeds result hend ↦ ?_)
    rcases hend with hrefused | hannounced
    · exact concludes_of_refused ((hrefused.map _).map _)
    · exact concludes_of_announced rfl ((hannounced.map fun _ ↦ id).map _)
  | deleteAnalysis =>
    refine keeps_withBody (fun id ↦ ?_) hunread
    refine keeps_answerId
      ((Service.Analyses.keeps_delete gate h).map fun deeds result hend ↦ ?_)
    rcases hend with hrefused | ⟨rfl, write, hwrite, heffects⟩
    · exact concludes_of_refused ((hrefused.map _).map _)
    · exact .deleted rfl hwrite heffects rfl
  | _ => contradiction

end Context

end Api

end RuleWatch
