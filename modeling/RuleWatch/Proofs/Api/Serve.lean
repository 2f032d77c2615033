import RuleWatch.Proofs.Api.Change
import RuleWatch.Proofs.Detector.Acknowledge
import RuleWatch.Server

/-!
# What a request changes

From the first byte of a request to the last of its response: a request that is not answered with
success has changed nothing, and one that is has changed one thing. The detector is told of a change
of the rules, once and after it, and of nothing else; the response tells whether it has
acknowledged.
-/

namespace RuleWatch

open Api (Concludes Endpoint Reply)
open Detector (ruleSetChanged)
open Http (Method Request Response)
open Work

/-! ## Endpoints -/

namespace Api.Endpoint

theorem ofPath?_path (e : Endpoint) : ofPath? e.path = some e := by
  cases e <;> rfl

theorem ofPath?_eq_some_iff {path : String} {e : Endpoint} :
    ofPath? path = some e ↔ path = e.path := by
  constructor
  · intro h
    have hpath := List.find?_some h
    simpa using (beq_iff_eq.mp hpath).symm
  · rintro rfl
    exact ofPath?_path e

/-- Mutations are asked with a method of their own. -/
theorem isMutation_eq_of_allows {e : Endpoint} {m : Method} (h : e.allows m) :
    e.isMutation = (m == .post) := by
  cases e <;> cases m <;> first | rfl | contradiction

end Api.Endpoint

/-- The endpoint that a request is posted to, if any. -/
def Http.Request.posted? (r : Request) : Option Endpoint :=
  if r.method = .post then Endpoint.ofPath? r.path else none

theorem Http.Request.posted?_eq_some_iff {r : Request} {e : Endpoint} :
    r.posted? = some e ↔ r.method = .post ∧ r.path = e.path := by
  simp [posted?, Endpoint.ofPath?_eq_some_iff]

/-! ## The server -/

namespace Server

variable {gate : Expression.Gate} {server : Server gate} {trace : String} {r : Request}
  {deeds : List Deed}

/-- A request that has no effects, and is not posted to a mutation or not answered with success. -/
theorem keeps_of_isQuiet {work : Work Response} (hwork : work.IsQuiet) (h : effects deeds = [])
    (hposted : ∀ e, r.posted? = some e → e.isMutation = false) :
    Keeps (fun _ _ ↦ True) (Concludes r.posted?) deeds work := by
  refine hwork.keeps.imp fun deeds' response heffects ↦ ?_
  refine .refused (heffects.trans h) fun e he hmutation ↦ ?_
  rw [hposted e he] at hmutation
  contradiction

theorem keeps_route (h : effects deeds = []) :
    Keeps (fun _ _ ↦ True) (Concludes r.posted?) deeds (server.route trace r) := by
  unfold route
  split
  next hnone =>
    have hposted : r.posted? = none := by simp [Request.posted?, hnone]
    exact .refused h fun e he ↦ by simp [hposted] at he
  next e hfound =>
    split
    next hallowed =>
      have hpost := Endpoint.isMutation_eq_of_allows hallowed
      cases hmutation : e.isMutation with
      | true =>
        have hmethod : r.method = .post := beq_iff_eq.mp (hpost.symm.trans hmutation)
        have hposted : r.posted? = some e :=
          Request.posted?_eq_some_iff.mpr ⟨hmethod, Endpoint.ofPath?_eq_some_iff.mp hfound⟩
        rw [keeps_bind, hposted]
        refine (Api.Context.keeps_handle hmutation h).imp fun _ _ hend ↦ ?_
        rw [keeps_pure, if_neg (by simp [hmethod])]
        exact hend
      | false =>
        refine keeps_of_isQuiet ((Api.Context.isQuiet_handle hmutation).bind fun _ ↦ .pure) h
          fun e' he' ↦ ?_
        rw [hmutation, (Request.posted?_eq_some_iff.mp he').1] at hpost
        contradiction
    · exact .refused h fun _ _ _ ↦ ⟨by decide, by decide⟩

theorem keeps_respond (h : effects deeds = []) :
    Keeps (fun _ _ ↦ True) (Concludes r.posted?) deeds (server.respond trace r) := by
  unfold respond
  split
  next hoptions =>
    have hposted : r.posted? = none := by simp [Request.posted?, hoptions]
    exact .refused h fun e he ↦ by simp [hposted] at he
  · rw [keeps_bind]
    exact (keeps_route h).imp fun _ _ hend ↦ hend.congr rfl rfl rfl

theorem isQuiet_ofRequest : (Http.Trace.ofRequest r).IsQuiet := by
  unfold Http.Trace.ofRequest
  split
  · exact .pure
  · exact (IsQuiet.perform rfl).bind fun _ ↦ .pure

theorem keeps_serve : Keeps (fun _ _ ↦ True) (Concludes r.posted?) [] (server.serve r) := by
  unfold serve
  rw [keeps_bind]
  refine isQuiet_ofRequest.keeps.imp fun deeds trace heffects ↦ ?_
  have h : effects deeds = [] := heffects
  split
  · have hstatus : ((tooLong trace).setHeader Http.Trace.header trace).status = 413 := rfl
    exact ⟨trivial, fun _ ↦ .refused (by simp [h]) fun _ _ _ ↦ by simp [hstatus]⟩
  · refine ⟨trivial, fun _ ↦ ?_⟩
    change Keeps _ _ _ (server.respond trace r >>= _)
    rw [keeps_bind]
    refine (keeps_respond (by simp [h])).imp fun deeds' response hend ↦ ?_
    exact ⟨trivial, fun _ ↦ hend.congr (by simp) rfl rfl⟩

end Server

/-! ## Replies to changes -/

/-- A change is told with its id; the status and the code say whether the detector has
acknowledged. -/
theorem exists_carries_announced {response : Response} {trace : String} {id : Int}
    {answer : Option Bytes}
    (h : response.Carries (.ofResult trace (Service.announced id answer (Reply.idData id)))) :
    ∃ reply : Reply, response.Carries reply ∧ reply.data = .object [("id", .ofInt id)] ∧
      (Detector.HasStatus answer 200 ∧ reply.status = 200 ∧ reply.code = 0 ∨
        ¬ Detector.HasStatus answer 200 ∧ reply.status = 202 ∧ reply.code = 1201) := by
  have hacknowledged := Detector.acknowledge_isOk_iff ruleSetChanged answer
  rw [Service.announced] at h
  cases hanswer : Detector.acknowledge ruleSetChanged answer with
  | ok data =>
    rw [hanswer] at h hacknowledged
    exact ⟨_, h, rfl, .inl ⟨hacknowledged.mp ⟨data, rfl⟩, rfl, rfl⟩⟩
  | error failure =>
    rw [hanswer] at h hacknowledged
    exact ⟨_, h, rfl, .inr ⟨fun hstatus ↦ by simpa using hacknowledged.mpr hstatus, rfl, rfl⟩⟩

/-- A deed that has changed a row is an operation on the store. -/
theorem Deed.exists_of_changed? {d : Deed} {row : Store.Entity × Int} (h : d.changed? = some row) :
    ∃ (op : Store.Operation) (answer : op.Answer),
      d = ⟨.store op, answer⟩ ∧ op.changed? answer = some row := by
  obtain ⟨s, answer⟩ := d
  cases s with
  | store op => exact ⟨op, answer, rfl, h⟩
  | _ => contradiction

namespace Server

/-- A request leaves everything as it was, unless it is posted to an endpoint that changes something
and is answered with success. If the endpoint changes rules, the request has then changed one rule,
and after that it has told the detector, once; it is answered with 200 if the detector has
acknowledged, and with 202 if it has not, and with the id of the rule. No other request tells the
detector; among them are the questions what may be asked, which reach no endpoint. -/
theorem serve_effects (server : Server gate) (r : Request) (world : World) :
    let response := ((server.serve r).run world).1
    let after := ((server.serve r).run world).2
    let deeds := (server.serve r).deeds world
    let calls := deeds.filterMap fun d ↦ d.step.call?
    after.calls = world.calls ++ calls ∧
    (after.store = world.store ∨
      (∃ e : Endpoint, e.changesRules ∧ r.method = .post ∧ r.path = e.path ∧
        ∃ reply, response.Carries reply ∧
          (reply.status = 200 ∧ reply.code = 0 ∨ reply.status = 202 ∧ reply.code = 1201)) ∨
      (r.method = .post ∧ r.path = Endpoint.deleteAnalysis.path ∧ response.status = 200)) ∧
    (∀ e : Endpoint, e.changesRules → r.method = .post → r.path = e.path →
      (response.status = 200 ∨ response.status = 202) →
        ∃ (op : Store.Operation) (kept : op.Answer) (answer : Option Bytes) (id : Int)
            (reply : Reply),
          op.changed? kept = some (.rule, id) ∧
          effects deeds = [⟨.store op, kept⟩, ⟨.ask ruleSetChanged, answer⟩] ∧
          after.store = (world.store.perform world.clock op).2 ∧
          announcements calls = [ruleSetChanged] ∧
          response.Carries reply ∧ reply.data = .object [("id", .ofInt id)] ∧
          (Detector.HasStatus answer 200 ∧ reply.status = 200 ∧ reply.code = 0 ∨
            ¬ Detector.HasStatus answer 200 ∧ reply.status = 202 ∧ reply.code = 1201)) ∧
    ((∃ e : Endpoint, e.changesRules ∧ r.method = .post ∧ r.path = e.path ∧
        (response.status = 200 ∨ response.status = 202)) ∨
      announcements calls = []) := by
  intro response after deeds calls
  have hconcludes : Concludes r.posted? deeds response := keeps_serve.run world
  refine ⟨run_calls _ _, ?_⟩
  have hcalls := announcements_eq deeds
  change announcements calls = _ at hcalls
  cases hconcludes with
  | refused hnone hfailed =>
    have hstore : after.store = world.store := by
      refine store_run fun d hd ↦ Deed.changed?_eq_none ?_
      simpa using List.filter_eq_nil_iff.mp hnone d hd
    refine ⟨.inl hstore, fun e he hmethod hpath hstatus ↦ ?_, .inr ?_⟩
    · have hposted := Request.posted?_eq_some_iff.mpr ⟨hmethod, hpath⟩
      exact absurd hstatus (not_or.mpr (hfailed e hposted (Endpoint.isMutation_of_changesRules he)))
    · rw [hcalls, hnone]
      rfl
  | @announced e write id answer trace hposted he hwrite hdone hreply =>
    obtain ⟨hmethod, hpath⟩ := Request.posted?_eq_some_iff.mp hposted
    obtain ⟨op, kept, rfl, hkept⟩ := Deed.exists_of_changed? hwrite
    have hstore : after.store = (world.store.perform world.clock op).2 := by
      refine store_run_of_effects hdone fun d hd ↦ ?_
      rw [List.mem_singleton.mp hd]
      rfl
    have htold : announcements calls = [ruleSetChanged] := by
      rw [hcalls, hdone]
      rfl
    obtain ⟨reply, hcarries, hdata, hcode⟩ := exists_carries_announced hreply
    have hsuccess : reply.status = 200 ∧ reply.code = 0 ∨ reply.status = 202 ∧ reply.code = 1201 :=
      hcode.imp And.right And.right
    have hstatus : response.status = 200 ∨ response.status = 202 := by
      rw [hcarries.1]
      exact hsuccess.imp And.left And.left
    exact ⟨.inr (.inl ⟨e, he, hmethod, hpath, reply, hcarries, hsuccess⟩),
      fun _ _ _ _ _ ↦
        ⟨op, kept, answer, id, reply, hkept, hdone, hstore, htold, hcarries, hdata, hcode⟩,
      .inl ⟨e, he, hmethod, hpath, hstatus⟩⟩
  | @deleted write id hposted hwrite hdone hok =>
    obtain ⟨hmethod, hpath⟩ := Request.posted?_eq_some_iff.mp hposted
    obtain ⟨op, kept, rfl, -⟩ := Deed.exists_of_changed? hwrite
    refine ⟨.inr (.inr ⟨hmethod, hpath, hok⟩), fun e he hmethod' hpath' _ ↦ ?_, .inr ?_⟩
    · have hposted' := Request.posted?_eq_some_iff.mpr ⟨hmethod', hpath'⟩
      obtain rfl : Endpoint.deleteAnalysis = e := Option.some.inj (hposted.symm.trans hposted')
      contradiction
    · rw [hcalls, hdone]
      rfl

/-- A rule is deleted, and the detector does not answer. -/
theorem serve_effects_of_silence :
    let server : Server := ⟨0⟩
    let disk : Rule.Draft :=
      ⟨"disk", "disk_usage", Condition.none, ⟨some "gt", some (.ofInt 80)⟩, "error", "5m"⟩
    let fresh : World := .fresh 0 Detector.silent fun _ ↦ .replicate drawLength 0
    let world : World := { fresh with store := (fresh.store.insertRule disk 0).2 }
    let r : Request :=
      { method := .post
        target := "/api/v1/rules/delete"
        headers := [("content-type", Text.toBytes "application/json"), ("x-trace-id", [55])]
        body := Text.toBytes "\x7b\"id\":1\x7d" }
    let response := ((server.serve r).run world).1
    response.status = 202 ∧
      ∃ (op : Store.Operation) (kept : op.Answer) (id : Int) (reply : Reply),
        op.changed? kept = some (.rule, id) ∧
        ((server.serve r).run world).2.store = (world.store.perform world.clock op).2 ∧
        response.Carries reply ∧ reply.data = .object [("id", .ofInt id)] := by
  intro server disk fresh world r response
  have hstatus : response.status = 202 := by decide +kernel
  obtain ⟨op, kept, answer, id, reply, hkept, -, hstore, -, hcarries, hdata, -⟩ :=
    (serve_effects server r world).2.2.1 .deleteRule rfl rfl (by decide +kernel) (.inr hstatus)
  exact ⟨hstatus, op, kept, id, reply, hkept, hstore, hcarries, hdata⟩

end Server

end RuleWatch
