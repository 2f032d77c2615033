import RuleWatch.Proofs.Api.Conduct
import RuleWatch.Proofs.Http.Trace
import RuleWatch.Proofs.Work.Crowd

/-!
# Everything is told under the trace id

From its coming in to its response, a request has one trace id. Its response has it in its header
and in its envelope, if it carries one, and its entries in the journal tell no other.
-/

namespace RuleWatch

open Api (Context Endpoint Reply)
open Http (Request Response)
open Http.Trace (IsHexOf IsPlainId inbound? inbound?_eq_some_iff)
open Text (toBytes)
open Work

/-! ## Trace ids -/

/-- The trace id of a request that has done some deeds: it is the one that the client gives, or it
is made of the bytes that were drawn first. -/
inductive Http.Request.HasTrace (r : Request) (deeds : List Deed) (trace : String) : Prop
  | given (hplain : IsPlainId trace) (hheader : r.header? Trace.header = some (toBytes trace))
  | made {bytes : Vector UInt8 8} (hnone : ∀ id, IsPlainId id →
      r.header? Trace.header ≠ some (toBytes id))
    (hdrawn : deeds.head? = some ⟨.random, bytes⟩) (hhex : IsHexOf trace bytes)

namespace Http.Request.HasTrace

variable {r : Request} {deeds : List Deed} {trace : String}

/-- What is done later has no influence on the trace id. -/
theorem append (h : r.HasTrace deeds trace) (later : List Deed) :
    r.HasTrace (deeds ++ later) trace := by
  cases h with
  | given hplain hheader => exact .given hplain hheader
  | made hnone hdrawn hhex => exact .made hnone (by simp [hdrawn]) hhex

theorem keeps_ofRequest (r : Request) :
    (Trace.ofRequest r).Keeps (fun _ _ ↦ True)
      (fun deeds trace ↦ r.HasTrace deeds trace ∧ journal deeds = []) [] := by
  unfold Trace.ofRequest
  cases hinbound : inbound? r with
  | some id =>
    obtain ⟨hplain, hheader⟩ := inbound?_eq_some_iff.mp hinbound
    exact ⟨.given hplain hheader, rfl⟩
  | none =>
    refine ⟨trivial, fun world ↦ ⟨.made (fun id hplain hheader ↦ ?_) rfl
      (Trace.isHexOf_ofRandom _), rfl⟩⟩
    rw [inbound?_eq_some_iff.mpr ⟨hplain, hheader⟩] at hinbound
    contradiction

end Http.Request.HasTrace

/-! ## Responses -/

/-- A header that is set comes once. -/
theorem Http.Response.filter_setHeader (response : Response) (name value : String) :
    (response.setHeader name value).headers.filter (fun h ↦ h.1 == name) = [(name, value)] := by
  simp [setHeader, List.filter_filter]

/-- An envelope tells all of its reply but the status. -/
theorem Api.Reply.toJson_eq_iff {reply reply' : Reply} :
    reply.toJson = reply'.toJson ↔ reply.code = reply'.code ∧ reply.message = reply'.message ∧
      reply.trace = reply'.trace ∧ reply.data = reply'.data := by
  simp only [toJson, Json.ofNat, Json.object.injEq, List.cons.injEq, Prod.mk.injEq,
    Json.number.injEq, Json.Number.int.injEq, Int.natCast_inj, Json.string.injEq, true_and,
    and_true]

/-- The description of the service is no reply. -/
theorem Api.Reply.toJson_ne_document (reply : Reply) (title version : String) :
    reply.toJson ≠ Api.Description.document title version := by
  simp [toJson, Api.Description.document]

/-- A request has been answered under a trace id, with some deeds and a response. -/
structure ToldUnder (trace : String) (r : Request) (deeds : List Deed) (response : Response) :
    Prop where
  hasTrace : r.HasTrace deeds trace
  /-- The response has the trace id in its header, once. -/
  header : response.headers.filter (fun h ↦ h.1 == Http.Trace.header) =
    [(Http.Trace.header, trace)]
  /-- An envelope tells the trace id. -/
  envelope : ∀ reply : Reply, response.body = .json reply.toJson → reply.trace = trace
  /-- All JSON is in envelopes, but for the description of the service. -/
  enveloped : ∀ v, response.body = .json v → r.path ≠ Endpoint.description.path →
    ∃ reply : Reply, v = reply.toJson
  /-- The journal has the request and the response in it, or an entry that says that the body was
  too long. -/
  framed : journal deeds = [.requestRefused trace r.method.name r.fullTarget] ∨
    ∃ body between body', journal deeds =
      .request trace r.method.name r.fullTarget body :: between ++
        [.response trace response.status body']
  /-- The journal tells no other trace id. -/
  journal_trace : ∀ event ∈ journal deeds, ∀ t, event.trace? = some t → t = trace

namespace ToldUnder

variable {trace : String} {r : Request} {deeds between : List Deed} {response : Response}

/-- What a response may carry it tells under the trace id, as soon as its header is set. -/
theorem of_mayCarry (htrace : r.HasTrace deeds trace) (hcarry : r.MayCarry trace response)
    (hframed : journal deeds = [.requestRefused trace r.method.name r.fullTarget] ∨
      ∃ body between body', journal deeds =
        .request trace r.method.name r.fullTarget body :: between ++
          [.response trace response.status body'])
    (hjournal : ∀ event ∈ journal deeds, ∀ t, event.trace? = some t → t = trace) :
    ToldUnder trace r deeds (response.setHeader Http.Trace.header trace) := by
  constructor
  case hasTrace => exact htrace
  case header => exact response.filter_setHeader ..
  case envelope =>
    intro reply hreply
    rcases hcarry with htraced | ⟨-, hbody⟩
    · obtain ⟨reply', heq, rfl⟩ := htraced _ hreply
      exact (Reply.toJson_eq_iff.mp heq).2.2.1
    · have heq := hreply.symm.trans hbody
      exact absurd (Http.Body.json.inj heq) (reply.toJson_ne_document _ _)
  case enveloped =>
    intro v hv hpath
    rcases hcarry with htraced | ⟨hdescription, -⟩
    · obtain ⟨reply, heq, -⟩ := htraced v hv
      exact ⟨reply, heq⟩
    · contradiction
  case framed => exact hframed
  case journal_trace => exact hjournal

/-- Proper steps tell no other trace id. -/
theorem trace_eq_of_isProper {gate : Expression.Gate} {calls : Detector.Call → Prop}
    (h : ∀ d ∈ deeds, d.step.IsProper gate calls trace) :
    ∀ event ∈ journal deeds, ∀ t, event.trace? = some t → t = trace := by
  intro event hevent
  obtain ⟨d, hd, hstep⟩ := exists_deed_of_mem_journal hevent
  have hproper := h d hd
  rw [hstep] at hproper
  exact hproper

end ToldUnder

namespace Server

variable {gate : Expression.Gate} {r : Request}

/-- Whatever a request does, it ends with being answered under its trace id. -/
theorem keeps_toldUnder (server : Server gate) (r : Request) :
    (server.serve r).Keeps (fun _ _ ↦ True)
      (fun deeds response ↦ ∃ trace, ToldUnder trace r deeds response) [] := by
  unfold serve
  rw [keeps_bind]
  refine (Http.Request.HasTrace.keeps_ofRequest r).imp fun deeds trace ⟨htrace, hnone⟩ ↦ ?_
  have htold : ∀ {event : Journal.Event}, event.trace? = some trace →
      ∀ t, event.trace? = some t → t = trace :=
    fun hevent t ht ↦ Option.some.inj (ht.symm.trans hevent)
  split
  · have hcarry : r.MayCarry trace (tooLong trace) := .inl Context.isTraced_respond
    refine ⟨trivial, fun _ ↦ ⟨trace, .of_mayCarry (htrace.append _) hcarry (.inl ?_) ?_⟩⟩
    · rw [journal_append, hnone]
      rfl
    · rw [journal_append, hnone]
      exact List.forall_mem_singleton.mpr (htold rfl)
  · refine ⟨trivial, fun _ ↦ ?_⟩
    change Keeps _ _ _ (server.respond trace r >>= _)
    rw [keeps_bind]
    refine ((confined_respond server trace r).keeps_deeds _).imp ?_
    rintro deeds' response ⟨between, rfl, hbetween, hcarry⟩
    refine ⟨trivial, fun _ ↦ ⟨trace, .of_mayCarry ?_ hcarry (.inr ?_) ?_⟩⟩
    · exact ((htrace.append _).append _).append _
    · refine ⟨loggedRequest r, journal between, loggedResponse r response, ?_⟩
      simp only [journal_append, hnone, journal_singleton_log, List.nil_append,
        List.singleton_append]
    · simp only [journal_append, hnone, List.nil_append, List.forall_mem_append]
      refine ⟨⟨?_, ToldUnder.trace_eq_of_isProper hbetween⟩, ?_⟩
      · exact List.forall_mem_singleton.mpr (htold rfl)
      · exact List.forall_mem_singleton.mpr (htold rfl)

/-- Every request is answered under its trace id: when it is served in one go, and when it is served
side by side with any others. What it has told is what is new in the journal. -/
theorem told_under_trace (server : Server gate) (world : World) :
    (∀ r : Request,
      let deeds := (server.serve r).deeds world
      ((server.serve r).run world).2.events = world.events ++ journal deeds ∧
        ∃ trace, ToldUnder trace r deeds ((server.serve r).run world).1) ∧
    ∀ events : List (Crowd.Event Request),
      let c := (Crowd.start world).run server.serve events
      c.world.events = world.events ++ journal (c.history.map Prod.snd) ∧
        ∀ place r response, c.members[place]? = some (r, .done response) →
          ∃ trace, ToldUnder trace r (Crowd.deedsOf c.history place) response := by
  constructor
  · intro r deeds
    exact ⟨run_events _ _, (keeps_toldUnder server r).run world⟩
  · intro events c
    constructor
    · exact (Crowd.Invariant.events world.events).run (keeps_toldUnder server)
        (List.append_nil _).symm events
    · intro place r response hplace
      exact ((Crowd.obeys_start world).run (keeps_toldUnder server) events).keeps hplace

/-- Two requests side by side, both in vain: one to nowhere that comes with a trace id, and one for
a rule that is not there, with a header that is no trace id. -/
theorem told_under_trace_of_two :
    let nowhere : Request := ⟨.get, "/nowhere", [("x-trace-id", toBytes "client-1")], []⟩
    let detail : Request := ⟨.get, "/api/v1/rules/detail?id=7", [("x-trace-id", [32])], []⟩
    let world : World := .fresh 0 Detector.silent fun _ ↦ .replicate drawLength 10
    let server : Server := ⟨0⟩
    let c := (Crowd.start world).run server.serve
      [.arrival nowhere, .arrival detail, .turn 1, .turn 0, .turn 1, .turn 1, .turn 0, .turn 1]
    (c.members.map fun member ↦ match member.2 with
      | .done response => (response.status, response.header? "x-trace-id")
      | .step .. => (0, none)) =
      [(404, some "client-1"), (404, some "0a0a0a0a0a0a0a0a")] ∧
      ∀ place < 2, ∃ r response trace, c.members[place]? = some (r, .done response) ∧
        ToldUnder trace r (Crowd.deedsOf c.history place) response := by
  intro nowhere detail world server c
  refine ⟨by decide +kernel, fun place hplace ↦ ?_⟩
  have hlength : c.members.length = 2 := by decide +kernel
  have hsettled : c.isSettled := by decide +kernel
  obtain ⟨r, response, hdone⟩ := Crowd.exists_done hsettled (hlength ▸ hplace)
  obtain ⟨trace, htold⟩ := ((told_under_trace server world).2 _).2 place r response hdone
  exact ⟨r, response, trace, hdone, htold⟩

end Server

end RuleWatch
