import RuleWatch.Proofs.Api.Conduct
import RuleWatch.Proofs.Api.Independence
import RuleWatch.Proofs.Api.Reachable
import RuleWatch.Proofs.Service.Concord

/-!
# What the detector says when it fails

Two runs of a request, from the same store and at the same time, in which the detector fails in the
same way: whatever it says in doing so, the responses are the same but for the trace id
(`Server.hides_failures`).
-/

namespace RuleWatch

open Api (Context Endpoint Reply)
open Detector (FailureClass)
open Http (Form Request Response)
open Http.Response (Alike)
open Work

variable {c : FailureClass} {trace trace' : String}

/-! ## Replies -/

namespace Api.Reply

variable {reply reply' : Reply} {result result' : Except Failure Json}

/-- What the detector has said of a failure is not told. -/
theorem ofResult_hushed (trace : String) (result : Except Failure Json) :
    ofResult trace (result.mapError Failure.hushed) = ofResult trace result := by
  cases result with
  | ok data => rfl
  | error failure => cases failure <;> rfl

theorem alike_of_sameHushed (h : SameHushed result result') (trace trace' : String) :
    Alike trace trace' (Context.respond (.ofResult trace result))
      (Context.respond (.ofResult trace' result')) := by
  rw [← ofResult_hushed trace, ← ofResult_hushed trace', h]
  exact alike_ofResult trace trace' _

/-- Replies that differ in nothing but their trace ids tell the same. -/
theorem toJson_eq_of_withTrace_eq {t : String}
    (h : reply'.toJson.withTrace t = reply.toJson.withTrace t) :
    reply'.toJson = { reply with trace := reply'.trace }.toJson := by
  simpa [toJson, Json.withTrace] using h

/-- The description of the service is no reply, under whatever trace id. -/
theorem document_withTrace_ne (reply : Reply) (title version t : String) :
    (Description.document title version).withTrace t ≠ reply.toJson.withTrace t := by
  simp [toJson, Json.withTrace, Description.document]

end Api.Reply

/-- Of two responses that are alike the one carries the same reply as the other, under its own trace
id. -/
theorem Http.Response.Alike.carries {r : Request} {response response' : Response} {t : String}
    {reply : Reply} (h : Alike trace trace' response response') (hmay : r.MayCarry t response')
    (hcarries : response.Carries reply) : response'.Carries { reply with trace := t } := by
  obtain ⟨hstatus, hbody⟩ := hcarries
  have hsame : response'.withTrace t = response.withTrace t := (h.withTrace_eq t).symm
  have htold : response'.body.withTrace t = .json (reply.toJson.withTrace t) := by
    have hbodies : response'.body.withTrace t = response.body.withTrace t := congrArg body hsame
    rw [hbodies, hbody]
    rfl
  refine ⟨(congrArg status hsame).trans hstatus, ?_⟩
  cases hbody' : response'.body with
  | json v =>
    rw [hbody'] at htold
    rcases hmay with htraced | ⟨-, hdescription⟩
    · obtain ⟨reply', rfl, rfl⟩ := htraced v hbody'
      exact congrArg Body.json (Reply.toJson_eq_of_withTrace_eq (Http.Body.json.inj htold))
    · obtain rfl := Http.Body.json.inj (hbody'.symm.trans hdescription)
      exact absurd (Http.Body.json.inj htold) (reply.document_withTrace_ne _ _ _)
  | _ =>
    rw [hbody'] at htold
    contradiction

/-! ## Handlers -/

namespace Api.Context

variable {α : Type} {gate : Expression.Gate} {ctx : Context gate} {q : Detector.Query α}
  {toJson : α → Json}

theorem concords_pure (response : Response) :
    Concords c.Covers (Alike trace trace') (pure response) (pure response) :=
  concords_done (.refl response)

theorem concords_refuse (message : String) :
    Concords c.Covers (Alike ctx.trace trace') (ctx.refuse message)
      ((ctx.traced trace').refuse message) :=
  (coupled_refuse (fun _ _ ↦ id) message).concords

/-- Results that are the same but for what the detector has said are answered alike. -/
theorem concords_answer {work : Attempt Json}
    (h : Concords c.Covers SameHushed work.run work.run) :
    Concords c.Covers (Alike ctx.trace trace') (ctx.answer work)
      ((ctx.traced trace').answer work) := by
  rw [answer_eq_bind, answer_eq_bind]
  refine h.bind fun result result' hresult ↦ ?_
  refine ((ctx.detached_conclude result).coupled
    ((ctx.traced trace').detached_conclude result')).concords.mono ?_
  rintro _ _ ⟨rfl, rfl⟩
  exact Reply.alike_of_sameHushed hresult ctx.trace trace'

theorem concords_answerId {work : Attempt α} (h : Concords c.Covers SameHushed work.run work.run)
    (idOf : α → Int) :
    Concords c.Covers (Alike ctx.trace trace') (ctx.answerId (idOf <$> work))
      ((ctx.traced trace').answerId (idOf <$> work)) := by
  have hid : Concords c.Covers SameHushed (idOf <$> work).run (idOf <$> work).run :=
    h.map fun _ _ h ↦ h.map idOf
  exact concords_answer (hid.map fun _ _ h ↦ h.map Reply.idData)

theorem concords_answerQuery (hq : q.ReadsDue) :
    Concords c.Covers (Alike ctx.trace trace') (ctx.answerQuery toJson q)
      ((ctx.traced trace').answerQuery toJson q) :=
  concords_answer ((Service.concords_query hq).map fun _ _ h ↦ h.map toJson)

theorem concords_rangeQuery {range : TimeRange} (hq : q.ReadsDue) :
    Concords c.Covers (Alike ctx.trace trace') (ctx.rangeQuery range toJson q)
      ((ctx.traced trace').rangeQuery range toJson q) :=
  relate_withRange concords_refuse (concords_answerQuery hq)

/-- Two runs of what is done for an endpoint. -/
theorem concords_handle (ctx : Context gate) (trace' : String) (e : Endpoint) :
    Concords c.Covers (Alike ctx.trace trace') (ctx.handle e) ((ctx.traced trace').handle e) := by
  cases e with
  | createRule =>
    exact relate_withBody concords_pure fun draft ↦
      concords_answerId (Service.Rules.concords_create _ draft) Rule.id
  | updateRule =>
    exact relate_withBody concords_pure fun (id, changes) ↦
      concords_answerId (Service.Rules.concords_update _ id changes) Rule.id
  | deleteRule =>
    exact relate_withBody concords_pure fun id ↦
      concords_answerId (Service.Rules.concords_delete id) fun _ ↦ id
  | rawData =>
    exact relate_withForm concords_pure fun id ↦
      concords_answer ((Service.Analyses.concords_rawData id).map fun _ _ h ↦ h.map _)
  | targets => exact concords_answerQuery fun _ ↦ rfl
  | nodeInfo | nodeStatus | nodeContainerStatus =>
    exact relate_withForm concords_pure fun _ ↦ concords_answerQuery fun _ ↦ rfl
  | nodeResources | clusterResources | clusterContainerStatus =>
    exact relate_withForm concords_pure fun _ ↦ concords_rangeQuery fun _ ↦ rfl
  | query =>
    refine relate_withForm concords_pure fun (expression, time) ↦ ?_
    refine relate_withExpression concords_refuse ?_
    cases time with
    | some time => exact concords_answerQuery fun _ ↦ rfl
    | none =>
      exact (IsSteady.perform rfl).bind_concords fun _ ↦ concords_answerQuery fun _ ↦ rfl
  | queryRange =>
    exact relate_withForm concords_pure fun _ ↦
      relate_withExpression concords_refuse (concords_rangeQuery fun _ ↦ rfl)
  | health | listRules | ruleDetail | listAnalyses | deleteAnalysis | queryValidate | description =>
    -- here the detector is not asked
    refine (coupled_handle ctx trace' _).concords.mono fun _ _ h ↦ h.resolve_right ?_
    exact fun ⟨hasks, _⟩ ↦ absurd hasks (by decide)

end Api.Context

/-! ## The server -/

namespace Server

variable {gate : Expression.Gate} {r : Request}

theorem concords_route (server : Server gate) (r : Request) (trace trace' : String) :
    Concords c.Covers (Alike trace trace') (server.route trace r) (server.route trace' r) := by
  unfold route
  split
  · exact concords_done (.refl _)
  next e _ =>
    split
    · have hhandle : Concords c.Covers (Alike trace trace')
          ((server.context trace r).handle e)
          ((server.context trace' r).handle e) :=
        Context.concords_handle (server.context trace r) trace' e
      refine hhandle.bind fun response response' h ↦ concords_done ?_
      split
      · exact h.withoutBody
      · exact h
    · exact concords_done (.refl _)

theorem concords_respond (server : Server gate) (r : Request) (trace trace' : String) :
    Concords c.Covers (Alike trace trace') (server.respond trace r) (server.respond trace' r) := by
  unfold respond
  split
  · exact concords_done (.refl _)
  · exact (concords_route server r trace trace').bind fun _ _ h ↦
      concords_done (h.setHeader (by decide) "*")

/-- Two runs of a request answer alike, if the detector fails in the same way in both. -/
theorem concords_serve (server : Server gate) (r : Request) :
    Concords c.Covers
      (fun response response' ↦ ∃ trace trace',
        ((Http.Trace.inbound? r).isSome → trace = trace') ∧ Alike trace trace' response response')
      (server.serve r) (server.serve r) := by
  unfold serve
  refine (coupled_ofRequest r).concords.bind fun trace trace' htrace ↦ ?_
  split
  · refine concords_log (concords_done ⟨trace, trace', htrace, ?_⟩)
    exact (Reply.alike_failure .payloadTooLarge trace trace' _).setTrace
  · refine concords_log <|
      (concords_respond server r trace trace').bind fun response response' h ↦ ?_
    exact concords_log (concords_done ⟨trace, trace', htrace, h.setTrace⟩)

/-- Whatever a response carries it tells under some trace id. -/
theorem exists_mayCarry (server : Server gate) (r : Request) (world : World) :
    ∃ trace, r.MayCarry trace ((server.serve r).run world).1 := by
  have hconfined : (server.serve r).Confined (fun _ ↦ True)
      fun response ↦ ∃ trace, r.MayCarry trace response := by
    unfold serve
    refine Confined.bind (Q := fun _ ↦ True) ?_ fun trace _ ↦ ?_
    · unfold Http.Trace.ofRequest
      split
      · exact Confined.pure trivial
      · exact ⟨trivial, fun _ ↦ trivial⟩
    · split
      · exact ⟨trivial, fun _ ↦ ⟨trace, .inl Context.isTraced_respond⟩⟩
      · refine ⟨trivial, fun _ ↦ ?_⟩
        refine ((confined_respond server trace r).mono (fun _ _ ↦ trivial) fun _ h ↦ h).bind ?_
        exact fun response h ↦ ⟨trivial, fun _ ↦ ⟨trace, h⟩⟩
  exact (hconfined.run world).2

/-- Two runs of a request, from the same store and at the same time, in which the detector fails in
the same way whenever it is asked. The responses are the same but for the trace id: they have the
same status, and the one carries the same reply as the other. They are the same altogether if the
client has given the trace id. -/
theorem hides_failures (server : Server gate) (c : FailureClass) (r : Request)
    {world world' : World}
    (hworld : world.Agree world') (h : ∀ d ∈ (server.serve r).deeds world, d.Meets c.Covers)
    (h' : ∀ d ∈ (server.serve r).deeds world', d.Meets c.Covers) :
    let response := ((server.serve r).run world).1
    let response' := ((server.serve r).run world').1
    response.status = response'.status ∧
    (∀ trace, response.withTrace trace = response'.withTrace trace) ∧
    (∃ trace, ∀ reply : Reply, response.Carries reply →
      response'.Carries { reply with trace }) ∧
    ((Http.Trace.inbound? r).isSome → response = response') := by
  intro response response'
  obtain ⟨⟨trace, trace', htrace, halike⟩, -⟩ := concords_serve server r hworld h h'
  obtain ⟨t, hmay⟩ := server.exists_mayCarry r world'
  have hstatus : (response.withTrace t).status = (response'.withTrace t).status :=
    congrArg Response.status (halike.withTrace_eq t)
  exact ⟨hstatus, halike.withTrace_eq, ⟨t, fun reply hcarries ↦ halike.carries hmay hcarries⟩,
    fun hgiven ↦ halike.eq_of_trace_eq (htrace hgiven)⟩

/-- A rule is made, and the detector is not there in one run, and has something to say against it in
the other. -/
theorem hides_failures_of_secret :
    let body := Text.toBytes "\x7b\"status\":500,\"message\":\"secret\"\x7d"
    let world : World := .fresh 0 Detector.silent fun _ ↦ .replicate drawLength 0
    let world' := { world with detector := fun _ _ ↦ some body }
    let server : Server := ⟨0⟩
    let response := ((server.serve makeDisk).run world).1
    response.status = 202 ∧ response = ((server.serve makeDisk).run world').1 := by
  intro body world world' server response
  obtain ⟨⟨status, message, data⟩, hparts, rfl⟩ :
      ∃ p, (Json.Decoder.ofBytes Detector.Envelope.parts.decoder body).toOption = some p ∧
        p.1 = 500 :=
    Option.map_eq_some_iff.mp (by decide +kernel)
  have hsays : Detector.Says body 500 data := ⟨message, Result.toOption_eq_some_iff.mp hparts⟩
  have hagree : world.Agree world' := ⟨rfl, rfl⟩
  have hdropped : ∀ d ∈ (server.serve makeDisk).deeds world,
      d.Meets FailureClass.unavailable.Covers :=
    meets_of_detector _ fun _ _ ↦ .dropped
  have hrefused : ∀ d ∈ (server.serve makeDisk).deeds world',
      d.Meets FailureClass.unavailable.Covers :=
    meets_of_detector _ fun _ _ ↦ .refused hsays (by decide)
  obtain ⟨-, -, -, hsame⟩ := hides_failures server .unavailable makeDisk hagree hdropped hrefused
  exact ⟨by decide +kernel, hsame (by decide +kernel)⟩

end Server

end RuleWatch
