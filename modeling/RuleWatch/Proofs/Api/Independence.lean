import RuleWatch.Proofs.Api.Coupled

/-!
# What the detector has no hold on

The same requests, one after another, with the same times and from the same store: whatever the
detector answers, and whether it answers at all, the store is the same after each of them, and so is
the response if its endpoint does not ask the detector. A change of rules that the detector does not
acknowledge is kept all the same.
-/

namespace RuleWatch

open Api (Context Endpoint MayAnswer)
open Http (Request Response)
open Http.Response (Alike)
open Work

namespace Server

variable {gate : Expression.Gate} {r : Request} {trace trace' : String}

/-! ## One request -/

/-- What two runs of a request may answer. -/
def MayRespond (r : Request) (trace trace' : String) (response response' : Response) : Prop :=
  Alike trace trace' response response' ∨
    ∃ e : Endpoint, r.path = e.path ∧ e.asksDetector ∧
      (e.changesRules → ∃ id, response.Keeps id ∧ response'.Keeps id)

/-- A header that is not the trace id is set on both responses. -/
theorem MayRespond.setHeader {response response' : Response}
    (h : MayRespond r trace trace' response response') {name : String}
    (hname : name ≠ Http.Trace.header) (value : String) :
    MayRespond r trace trace' (response.setHeader name value) (response'.setHeader name value) :=
  h.imp (fun halike ↦ halike.setHeader hname value) id

theorem MayRespond.setTrace {response response' : Response}
    (h : MayRespond r trace trace' response response') :
    MayRespond r trace trace' (response.setHeader Http.Trace.header trace)
      (response'.setHeader Http.Trace.header trace') :=
  h.imp (fun halike ↦ halike.setTrace) id

theorem coupled_route (server : Server gate) (r : Request) (trace trace' : String) :
    Coupled (MayRespond r trace trace') (server.route trace r) (server.route trace' r) := by
  unfold route
  split
  · exact .done (.inl (.refl _))
  next e hfound =>
    have hpath : r.path = e.path := Endpoint.ofPath?_eq_some_iff.mp hfound
    split
    next hallowed =>
      have hhandle : Coupled (MayAnswer e trace trace')
          ((server.context trace r).handle e)
          ((server.context trace' r).handle e) :=
        Context.coupled_handle (server.context trace r) trace' e
      refine hhandle.bind fun response response' hanswer ↦ .done ?_
      rcases hanswer with halike | ⟨hasks, hchanges⟩
      · split
        · exact .inl halike.withoutBody
        · exact .inl halike
      · refine .inr ⟨e, hpath, hasks, fun hrules ↦ ?_⟩
        -- what changes rules is asked with `post`
        have hmethod : r.method = .post := by
          have hpost := Endpoint.isMutation_eq_of_allows hallowed
          rw [Endpoint.isMutation_of_changesRules hrules] at hpost
          exact beq_iff_eq.mp hpost.symm
        simpa [hmethod] using hchanges hrules
    · exact .done (.inl (.refl _))

theorem coupled_respond (server : Server gate) (r : Request) (trace trace' : String) :
    Coupled (MayRespond r trace trace') (server.respond trace r) (server.respond trace' r) := by
  unfold respond
  split
  · exact .done (.inl (.refl _))
  · refine (coupled_route server r trace trace').bind fun _ _ h ↦ .done ?_
    exact h.setHeader (by decide) "*"

/-- A trace id that the client gives is that of both runs. -/
theorem coupled_ofRequest (r : Request) :
    Coupled (fun trace trace' ↦ (Http.Trace.inbound? r).isSome → trace = trace')
      (Http.Trace.ofRequest r) (Http.Trace.ofRequest r) := by
  unfold Http.Trace.ofRequest
  cases Http.Trace.inbound? r with
  | some trace => exact .done fun _ ↦ rfl
  | none => exact .left rfl fun _ ↦ .right rfl fun _ ↦ .done (by simp)

/-- Two runs of a request do the same with the store, and answer alike as far as they may. -/
theorem coupled_serve (server : Server gate) (r : Request) :
    Coupled
      (fun response response' ↦ ∃ trace trace',
        ((Http.Trace.inbound? r).isSome → trace = trace') ∧
          MayRespond r trace trace' response response')
      (server.serve r) (server.serve r) := by
  unfold serve
  refine (coupled_ofRequest r).bind fun trace trace' htrace ↦ ?_
  split
  · refine .left rfl fun _ ↦ .right rfl fun _ ↦ .done ⟨trace, trace', htrace, ?_⟩
    exact .inl (Api.Reply.alike_failure .payloadTooLarge trace trace' _).setTrace
  · refine .left rfl fun _ ↦ .right rfl fun _ ↦ ?_
    refine (coupled_respond server r trace trace').bind fun response response' h ↦ ?_
    exact .left rfl fun _ ↦ .right rfl fun _ ↦ .done ⟨trace, trace', htrace, h.setTrace⟩

end Server

/-! ## Requests one after another -/

/-- A request that has been served: the response, and the store that was left. -/
structure Exchange where
  request : Request
  response : Response
  store : Store

variable {gate : Expression.Gate}

/-- Serves requests one after another, each at a time of its own. -/
def Server.exchanges (server : Server gate) : List (Int × Request) → World → List Exchange
  | [], _ => []
  | (now, r) :: rest, world =>
    let (response, after) := (server.serve r).run { world with clock := now }
    ⟨r, response, after.store⟩ :: server.exchanges rest after

namespace Exchange

/-- The two responses to a request are the same up to trace ids that were made for them. -/
def SameResponse (a b : Exchange) : Prop :=
  (∀ trace, a.response.withTrace trace = b.response.withTrace trace) ∧
    ((Http.Trace.inbound? a.request).isSome → a.response = b.response)

/-- Two runs agree on a request as far as they do not depend on the detector. -/
structure Concurs (a b : Exchange) : Prop where
  request : a.request = b.request
  /-- The store is the same afterwards. -/
  store : a.store = b.store
  /-- What does not ask the detector is answered with the same response. -/
  same : (∀ e : Endpoint, a.request.path = e.path → e.asksDetector = false) → a.SameResponse b
  /-- A change of rules is refused with the same response, or both responses tell that it is
  kept. -/
  kept : ∀ e : Endpoint, a.request.path = e.path → e.changesRules →
    a.SameResponse b ∨ ∃ id, a.response.Keeps id ∧ b.response.Keeps id

theorem sameResponse_of_alike {r : Request} {trace trace' : String} {response response' : Response}
    {store store' : Store} (htrace : (Http.Trace.inbound? r).isSome → trace = trace')
    (h : Alike trace trace' response response') :
    SameResponse ⟨r, response, store⟩ ⟨r, response', store'⟩ :=
  ⟨h.withTrace_eq, fun hsome ↦ h.eq_of_trace_eq (htrace hsome)⟩

/-- Two runs of one request concur. -/
theorem concurs_serve (server : Server gate) (r : Request) {world world' : World}
    (h : world.Agree world') :
    Concurs ⟨r, ((server.serve r).run world).1, ((server.serve r).run world).2.store⟩
      ⟨r, ((server.serve r).run world').1, ((server.serve r).run world').2.store⟩ := by
  obtain ⟨⟨trace, trace', htrace, hrespond⟩, hagree⟩ := (Server.coupled_serve server r).run h
  refine ⟨rfl, hagree.store, fun hasks ↦ ?_, fun e hpath hrules ↦ ?_⟩
  · rcases hrespond with halike | ⟨e, hpath, he, -⟩
    · exact sameResponse_of_alike htrace halike
    · rw [hasks e hpath] at he
      contradiction
  · rcases hrespond with halike | ⟨e', hpath', -, hkept⟩
    · exact .inl (sameResponse_of_alike htrace halike)
    · have heq : e' = e := by
        have hfound := Endpoint.ofPath?_eq_some_iff.mpr hpath
        rw [Endpoint.ofPath?_eq_some_iff.mpr hpath'] at hfound
        exact Option.some.inj hfound
      exact .inr (hkept (heq ▸ hrules))

end Exchange

/-- Two runs of the same requests from the same store concur after each of them, whatever their
detectors answer. -/
theorem concurs_of_same_store (server : Server gate) (store : Store) (world world' : World)
    (requests : List (Int × Request)) :
    List.Forall₂ Exchange.Concurs (server.exchanges requests { world with store })
      (server.exchanges requests { world' with store }) := by
  have hrun : ∀ {world world' : World}, world.store = world'.store →
      List.Forall₂ Exchange.Concurs (server.exchanges requests world)
        (server.exchanges requests world') := by
    induction requests with
    | nil => exact fun _ ↦ .nil
    | cons request rest ih =>
      obtain ⟨now, r⟩ := request
      intro world world' hstore
      have hagree : World.Agree { world with clock := now } { world' with clock := now } :=
        ⟨hstore, rfl⟩
      have hconcurs := Exchange.concurs_serve server r hagree
      exact .cons hconcurs (ih hconcurs.store)
  exact hrun rfl

/-- A rule is made and looked at: the detector acknowledges it in one run and never answers in the
other. -/
example :
    let create : Request :=
      { method := .post
        target := "/api/v1/rules/create"
        headers := [("content-type", Text.toBytes "application/json")]
        body := Text.toBytes <| "\x7b\"name\":\"disk\",\"expression\":\"disk_usage\","
          ++ "\"fault_condition_type\":\"gt\",\"fault_threshold\":80,"
          ++ "\"severity\":\"error\",\"duration\":\"5m\"\x7d" }
    let detail : Request := ⟨.get, "/api/v1/rules/detail?id=1", [], []⟩
    let server : Server := ⟨0⟩
    let statuses (detector : Detector.Behaviour) :=
      (server.exchanges [(5, create), (6, detail)]
        (.fresh 0 detector fun _ ↦ .replicate drawLength 0)).map fun exchange ↦
          exchange.response.status
    statuses (fun _ _ ↦ some (Text.toBytes "\x7b\"status\":200\x7d")) = [200, 200] ∧
      statuses Detector.silent = [202, 200] := by
  decide +kernel

end RuleWatch
