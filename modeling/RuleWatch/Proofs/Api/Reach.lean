import RuleWatch.Proofs.Api.Serve

/-!
# How a request comes to its endpoint

A request goes through the server in three stages: it gets a trace id and is written down, it is
answered by the handler under its path, and the response is written down. Only the second one has to
do with the store, the clock and the detector. So what is true of a handler is true of the server
(`Server.exists_run_serve`), and a request that comes to no handler leaves all that alone
(`Server.run_serve_unreached`).
-/

namespace RuleWatch

open Api (Context Endpoint)
open Http (Request)

/-- Two worlds differ in nothing but random bytes and the journal. -/
structure World.Beside (world world' : World) : Prop where
  store : world.store = world'.store
  clock : world.clock = world'.clock
  detector : world.detector = world'.detector
  calls : world.calls = world'.calls

theorem World.Beside.refl (world : World) : world.Beside world := ⟨rfl, rfl, rfl, rfl⟩

theorem World.Beside.trans {world world' world'' : World} (h : world.Beside world')
    (h' : world'.Beside world'') : world.Beside world'' :=
  ⟨h.store.trans h'.store, h.clock.trans h'.clock, h.detector.trans h'.detector,
    h.calls.trans h'.calls⟩

/-- An entry in the journal is no concern of the rest of the world. -/
theorem World.Beside.log {world world' : World} (h : world.Beside world') (event : Journal.Event) :
    (world.perform (.log event)).2.Beside world' :=
  ⟨h.store, h.clock, h.detector, h.calls⟩

/-- Worlds that differ in the journal alone do so after a request to the detector. -/
theorem World.Beside.ask {world world' : World} (h : world.Beside world') (call : Detector.Call) :
    World.Beside { world with calls := world.calls ++ [call] }
      { world' with calls := world'.calls ++ [call] } :=
  ⟨h.store, h.clock, h.detector, congrArg (· ++ [call]) h.calls⟩

/-- A request has the trace id that it comes with, or one that is drawn for it. -/
theorem Http.Trace.run_ofRequest_cases (r : Request) (world : World) :
    (∃ id, inbound? r = some id ∧ (ofRequest r).run world = (id, world)) ∨
      inbound? r = none ∧ (ofRequest r).run world =
        (ofRandom (world.random world.draws), { world with draws := world.draws + 1 }) := by
  unfold ofRequest
  cases inbound? r with
  | some id => exact .inl ⟨id, rfl, rfl⟩
  | none => exact .inr ⟨rfl, rfl⟩

/-- Nothing but random bytes is used up for a trace id. -/
theorem Http.Trace.beside_run_ofRequest (r : Request) (world : World) :
    ((ofRequest r).run world).2.Beside world := by
  obtain ⟨id, -, heq⟩ | ⟨-, heq⟩ := run_ofRequest_cases r world
  · rw [heq]
    exact .refl world
  · rw [heq]
    exact ⟨rfl, rfl, rfl, rfl⟩

/-- The result of some work is answered with its reply, and perhaps written down. -/
theorem Api.Context.run_answer {gate : Expression.Gate} (ctx : Context gate) (work : Attempt Json)
    (world : World) :
    ((ctx.answer work).run world).1 = respond (.ofResult ctx.trace (work.run.run world).1) ∧
      ((ctx.answer work).run world).2.Beside (work.run.run world).2 := by
  rw [answer_eq_bind, Work.run_bind]
  obtain heq | ⟨event, heq⟩ := ctx.conclude_cases (work.run.run world).1
  · rw [heq]
    exact ⟨rfl, .refl _⟩
  · rw [heq]
    exact ⟨rfl, World.Beside.log (.refl _) event⟩

namespace Server

variable {gate : Expression.Gate} {r : Request} {e : Endpoint}

/-- The body of the request is read, and it is too long. -/
def isTooLong (r : Request) : Bool :=
  readsBody r && maxBody < r.body.length

/-- What has no body that is read has none that is too long. -/
theorem isTooLong_eq_false (h : r.method ≠ .post) : isTooLong r = false := by
  simp [isTooLong, readsBody, h]

/-- A request whose body is too long is answered at once. -/
theorem run_serve_of_isTooLong (server : Server gate) (h : isTooLong r) (world : World) :
    (server.serve r).run world =
      let traced := (Http.Trace.ofRequest r).run world
      ((tooLong traced.1).setHeader Http.Trace.header traced.1,
        (traced.2.perform (.log (.requestRefused traced.1 r.method.name r.fullTarget))).2) := by
  have hlong : (readsBody r && decide (maxBody < r.body.length)) = true := h
  rw [serve, Work.run_bind]
  simp only [hlong, if_true]
  rfl

/-- Any other request is written down, answered, and its response is written down. -/
theorem run_serve (server : Server gate) (h : isTooLong r = false) (world : World) :
    (server.serve r).run world =
      let traced := (Http.Trace.ofRequest r).run world
      let event : Journal.Event := .request traced.1 r.method.name r.fullTarget (loggedRequest r)
      let answered := (server.respond traced.1 r).run (traced.2.perform (.log event)).2
      (answered.1.setHeader Http.Trace.header traced.1,
        (answered.2.perform
          (.log (.response traced.1 answered.1.status (loggedResponse r answered.1)))).2) := by
  have hshort : (readsBody r && decide (maxBody < r.body.length)) = false := h
  rw [serve, Work.run_bind]
  simp only [hshort, Bool.false_eq_true, if_false]
  change ((server.respond _ r >>= _).run _) = _
  rw [Work.run_bind]
  rfl

theorem allows_get (he : e.isMutation = false) : e.allows .get := by
  simp [Endpoint.allows, Endpoint.method, he]

/-- No endpoint is asked with the method by which clients ask what may be asked. -/
theorem ne_options_of_allows {m : Http.Method} (h : e.allows m) : m ≠ .options := by
  rintro rfl
  cases e <;> contradiction

/-- A request that may be asked of the endpoint under its path is answered by its handler. -/
theorem respond_of_allows (server : Server gate) (trace : String) (hpath : r.path = e.path)
    (hallows : e.allows r.method) :
    server.respond trace r =
      (((server.context trace r).handle e >>= fun response ↦
          pure (if r.method = .head then response.withoutBody else response)) >>=
        fun response ↦ pure (response.setHeader originHeader "*")) := by
  simp [respond, route, hpath, Endpoint.ofPath?_path, ne_options_of_allows hallows, hallows]

/-- A request that may be asked of the endpoint under its path comes to its handler, in a world with
the same store, clock and detector, and the handler makes the response. -/
theorem exists_run_serve (server : Server gate) (hpath : r.path = e.path)
    (hallows : e.allows r.method) (hlength : isTooLong r = false) (world : World) :
    ∃ trace before, before.Beside world ∧
      let served := (server.serve r).run world
      let handled := ((server.context trace r).handle e).run before
      served.1.status = handled.1.status ∧
        (r.method ≠ .head → served.1.body = handled.1.body) ∧
        served.2.store = handled.2.store ∧ served.2.calls = handled.2.calls := by
  rw [run_serve server hlength]
  have hbeside := Http.Trace.beside_run_ofRequest r world
  generalize (Http.Trace.ofRequest r).run world = traced at hbeside
  obtain ⟨trace, before⟩ := traced
  refine ⟨trace, _, hbeside.log (.request trace r.method.name r.fullTarget (loggedRequest r)), ?_⟩
  simp only [respond_of_allows server _ hpath hallows, Work.run_bind]
  refine ⟨?_, fun hhead ↦ ?_, rfl, rfl⟩
  · split <;> rfl
  · rw [if_neg hhead]
    rfl

/-- A request that only asks for something comes to the handler of its endpoint, and is answered
with what the handler says. -/
theorem exists_run_serve_get (server : Server gate) (he : e.isMutation = false)
    (hmethod : r.method = .get) (hpath : r.path = e.path) (world : World) :
    ∃ trace before, before.Beside world ∧
      let served := (server.serve r).run world
      let handled := ((server.context trace r).handle e).run before
      served.1.status = handled.1.status ∧ served.1.body = handled.1.body ∧
        served.2.store = handled.2.store ∧ served.2.calls = handled.2.calls := by
  have hallows : e.allows r.method := hmethod ▸ allows_get he
  obtain ⟨trace, before, hbeside, hstatus, hbody, hafter⟩ :=
    exists_run_serve server hpath hallows (isTooLong_eq_false (by simp [hmethod])) world
  exact ⟨trace, before, hbeside, hstatus, hbody (by simp [hmethod]), hafter⟩

/-- A request that comes to no handler is answered without further work. -/
theorem respond_of_unreached (server : Server gate) (trace : String)
    (h : ∀ e : Endpoint, r.path = e.path → e.allows r.method = false) :
    ∃ response, response.body = .none ∧ server.respond trace r = pure response := by
  unfold respond route
  split
  · exact ⟨_, rfl, rfl⟩
  · split
    · exact ⟨_, rfl, rfl⟩
    next e hfound =>
      rw [if_neg (by simp [h e (Endpoint.ofPath?_eq_some_iff.mp hfound)])]
      exact ⟨_, rfl, rfl⟩

/-- A request that comes to no handler leaves the store as it is, and asks the detector nothing. -/
theorem run_serve_unreached (server : Server gate)
    (h : isTooLong r ∨ ∀ e : Endpoint, r.path = e.path → e.allows r.method = false)
    (world : World) : ((server.serve r).run world).2.Beside world := by
  have hbeside := Http.Trace.beside_run_ofRequest r world
  cases hlong : isTooLong r with
  | true =>
    rw [run_serve_of_isTooLong server hlong]
    exact hbeside.log _
  | false =>
    have hunreached := h.resolve_left (by simp [hlong])
    obtain ⟨response, -, hrespond⟩ :=
      respond_of_unreached server ((Http.Trace.ofRequest r).run world).1 hunreached
    rw [run_serve server hlong]
    simp only [hrespond]
    exact (hbeside.log _).log _

end Server

end RuleWatch
