import RuleWatch.Proofs.Api.Conduct
import RuleWatch.Proofs.Text.Snippet
import RuleWatch.Proofs.Work.Crowd

/-!
# Bodies in the journal

No endpoint writes a body in the journal: what a service writes there tells no trace id, and a
handler adds nothing but the failure that it answers with. So all bodies in the journal are those of
requests and responses, of which the server writes snippets (`Server.logs_snippets`).
-/

namespace RuleWatch

open Api (Context Endpoint)
open Http (Request Response)
open Work

/-- The body that an event tells, if any. -/
def Journal.Event.body? (e : Event) : Option String :=
  e.fields.lookup "body"

/-- Bodies are told together with a trace id. -/
theorem Journal.Event.exists_trace? {e : Event} {body : String} (h : e.body? = some body) :
    ∃ trace, e.trace? = some trace := by
  cases e with
  | request trace | response trace => exact ⟨trace, rfl⟩
  | _ => contradiction

/-- The body of a response is told when it is shown. -/
theorem Journal.Event.body?_response (trace body : String) (status : Nat) :
    (Event.response trace status body).body? = if showsBody status then some body else none := by
  simp only [body?, fields]
  cases showsBody status <;> rfl

/-- What the step writes in the journal of a body is of some kind. -/
def Step.TellsBodies (P : String → Prop) : Step → Prop
  | .log event => ∀ body, event.body? = some body → P body
  | _ => True

theorem Step.TellsBodies.mono {P P' : String → Prop} {s : Step} (h : s.TellsBodies P)
    (hP : ∀ body, P body → P' body) : s.TellsBodies P' := by
  cases s with
  | log event => exact fun body hbody ↦ hP body (h body hbody)
  | _ => trivial

/-- All bodies that such steps write in the journal are of that kind. -/
theorem Step.TellsBodies.journal {P : String → Prop} {deeds : List Deed}
    (h : ∀ d ∈ deeds, d.step.TellsBodies P) :
    ∀ event ∈ journal deeds, ∀ body, event.body? = some body → P body := by
  intro event hevent
  obtain ⟨d, hd, hstep⟩ := exists_deed_of_mem_journal hevent
  have htells := h d hd
  rw [hstep] at htells
  exact htells

/-- What is proper under any trace id tells no body. -/
theorem Service.tellsNoBody {α : Type} {gate : Expression.Gate} {calls : Detector.Call → Prop}
    {attempt : Attempt α} (h : ∀ trace, IsProper gate calls trace attempt) :
    attempt.run.Confined (Step.TellsBodies fun _ ↦ False) fun _ ↦ True := by
  refine ((h "").and (h "other")).mono (fun s ⟨hone, hother⟩ ↦ ?_) fun _ _ ↦ trivial
  cases s with
  | log event =>
    intro body hbody
    obtain ⟨trace, htrace⟩ := Journal.Event.exists_trace? hbody
    have heq : "" = "other" := (hone trace htrace).symm.trans (hother trace htrace)
    contradiction
  | _ => trivial

/-! ## Handlers -/

namespace Api.Context

variable {gate : Expression.Gate}

/-- What is written in the journal of a failure tells no body. -/
theorem tellsNoBody_conclude (ctx : Context gate) (result : Except Failure Json) :
    (ctx.conclude result).Confined (Step.TellsBodies fun _ ↦ False) fun _ ↦ True := by
  cases result with
  | ok data => trivial
  | error failure =>
    rw [conclude]
    cases failure with
    | unavailable | undecodable | store =>
      exact ⟨fun _ hbody ↦ by contradiction, fun _ ↦ trivial⟩
    | _ => trivial

theorem tellsNoBody_handle (ctx : Context gate) (e : Endpoint) :
    (ctx.handle e).Confined (Step.TellsBodies fun _ ↦ False) fun _ ↦ True := by
  by_cases he : e = .description
  · subst he
    exact Confined.pure trivial
  refine Admits.handle ?_ he
  constructor
  case clock => trivial
  case answer =>
    intro work hwork
    rw [answer_eq_bind]
    exact (Service.tellsNoBody hwork).bind fun result _ ↦ ctx.tellsNoBody_conclude result
  case reply =>
    intro reply htrace
    trivial
  case text =>
    intro status s
    trivial

end Api.Context

/-! ## The server -/

namespace Server

/-- The journal tells a body as a snippet that is cut between characters, and not at length. -/
def IsLoggedBody (body : String) : Prop :=
  ∃ bytes, Text.cut? bytes maxLogged = some body ∧ (Text.toBytes body).length ≤ 203

/-- All snippets are told in this way. -/
theorem isLoggedBody_snippet (bytes : Bytes) : IsLoggedBody (Text.snippet bytes maxLogged) :=
  ⟨bytes, Text.cut?_eq_some .., (Text.isSnippet_snippet bytes maxLogged).length_le⟩

/-- No body at all is told as a snippet too. -/
theorem isLoggedBody_empty : IsLoggedBody "" := isLoggedBody_snippet []

theorem isLoggedBody_loggedRequest (r : Request) : IsLoggedBody (loggedRequest r) := by
  unfold loggedRequest
  split
  · exact isLoggedBody_snippet _
  · exact isLoggedBody_empty

theorem isLoggedBody_loggedResponse (r : Request) (response : Response) :
    IsLoggedBody (loggedResponse r response) := by
  unfold loggedResponse
  split
  · exact isLoggedBody_snippet _
  · exact isLoggedBody_empty

variable {gate : Expression.Gate} {trace : String} {r : Request}

/-- The answer to a request is found without a body in the journal. -/
theorem tellsNoBody_respond (server : Server gate) :
    (server.respond trace r).Confined (Step.TellsBodies fun _ ↦ False) fun _ ↦ True := by
  unfold respond
  split
  · exact .pure trivial
  · refine Confined.bind (Q := fun _ ↦ True) ?_ fun _ _ ↦ .pure trivial
    unfold route
    split
    · exact .pure trivial
    · split
      · exact (Context.tellsNoBody_handle ..).bind fun _ _ ↦ .pure trivial
      · exact .pure trivial

/-- All bodies that are written in the journal for a request are told as they should be. -/
theorem tellsBodies_serve (server : Server gate) (r : Request) :
    (server.serve r).Confined (Step.TellsBodies IsLoggedBody) fun _ ↦ True := by
  unfold serve
  refine Confined.bind (Q := fun _ ↦ True) ?_ fun trace _ ↦ ?_
  · unfold Http.Trace.ofRequest
    split
    · exact .pure trivial
    · exact ⟨trivial, fun _ ↦ trivial⟩
  · split
    · exact ⟨fun _ hbody ↦ by contradiction, fun _ ↦ trivial⟩
    · refine ⟨fun body hbody ↦ ?_, fun _ ↦ ?_⟩
      · exact Option.some.inj hbody ▸ isLoggedBody_loggedRequest r
      · refine ((tellsNoBody_respond server).mono (fun s hs ↦ hs.mono fun _ h ↦ h.elim)
          fun _ h ↦ h).bind fun response _ ↦ ⟨fun body hbody ↦ ?_, fun _ ↦ trivial⟩
        rw [Journal.Event.body?_response, Option.ite_none_right_eq_some] at hbody
        exact Option.some.inj hbody.2 ▸ isLoggedBody_loggedResponse r response

/-- Whatever the bytes are that a snippet is made of, no cut is made inside a character, and the
snippet is what it should be: so whatever requests are served, in one go or side by side, each body
in the journal is told as a snippet, and has no more than 203 bytes. -/
theorem logs_snippets (server : Server gate) (world : World) :
    (∀ (bytes : Bytes) (room : Nat),
      Text.cut? bytes room = some (Text.snippet bytes room) ∧
        Text.IsSnippet bytes room (Text.snippet bytes room)) ∧
    (∀ r : Request,
      let deeds := (server.serve r).deeds world
      ((server.serve r).run world).2.events = world.events ++ journal deeds ∧
        ∀ event ∈ journal deeds, ∀ body, event.body? = some body → IsLoggedBody body) ∧
    ∀ events : List (Crowd.Event Request),
      let c := (Crowd.start world).run server.serve events
      c.world.events = world.events ++ journal (c.history.map Prod.snd) ∧
        ∀ event ∈ journal (c.history.map Prod.snd), ∀ body, event.body? = some body →
          IsLoggedBody body := by
  have hkeeps : ∀ r, (server.serve r).Keeps (fun _ s ↦ s.TellsBodies IsLoggedBody)
      (fun _ _ ↦ True) [] := fun r ↦ (tellsBodies_serve server r).keeps []
  refine ⟨fun bytes room ↦ ⟨Text.cut?_eq_some .., Text.isSnippet_snippet ..⟩, ?_, ?_⟩
  · intro r deeds
    exact ⟨run_events _ _, Step.TellsBodies.journal ((tellsBodies_serve server r).run world).1⟩
  · intro events c
    constructor
    · exact (Crowd.Invariant.events world.events).run hkeeps (List.append_nil _).symm events
    · refine Step.TellsBodies.journal fun d hd ↦ ?_
      obtain ⟨entry, hentry, rfl⟩ := List.mem_map.mp hd
      exact Crowd.Invariant.steps.run hkeeps (by simp) events entry hentry

end Server

end RuleWatch
