import RuleWatch.Proofs.Api.Conduct
import RuleWatch.Proofs.Api.Reach
import RuleWatch.Proofs.Detector.Relay
import RuleWatch.Proofs.Service.Run

/-!
# What requests ask the detector

Ten endpoints are there to ask the detector for something. What such a request asks depends on its
parameters, on the time, and on what is kept (`Endpoint.asks?`); if there is nothing to be asked, it
is refused. Otherwise the detector is asked once, and the response tells what it brings
(`Context.relays_handle`).
-/

namespace RuleWatch

open Detector (Query)
open Http (Form Request Response)
open Result

namespace Api

/-- What is asked for an endpoint, and how the data that come back are told. Nothing is asked if the
parameters cannot be read, if they are not to be asked for, or if what they speak of is not kept. -/
def Endpoint.asks? (gate : Expression.Gate) (store : Store) (now : Int) (form : Form) :
    Endpoint → Option (Query Json)
  | .targets => return Query.targets.map Monitor.Targets.toJson
  | .nodeInfo => do
    let machine ← (Params.machine form).toOption
    return (Query.nodeInfo machine).map (.ofList Monitor.NodeInfo.toJson)
  | .nodeStatus => do
    let machine ← (Params.machine form).toOption
    return (Query.nodeStatus machine).map (.ofList Monitor.NodeStatus.toJson)
  | .nodeResources => do
    let (machine, range) ← (Params.machineRange form).toOption
    let _ ← range.check.toOption
    return (Query.nodeResources machine range).map (.ofList Metric.Sample.toJson)
  | .nodeContainerStatus => do
    let machine ← (Params.requiredMachine form).toOption
    return (Query.nodeContainerStatus machine).map (.ofList Metric.Sample.toJson)
  | .clusterResources => do
    let range ← (Params.range form).toOption
    let _ ← range.check.toOption
    return (Query.clusterResources range).map (.ofList Metric.Sample.toJson)
  | .clusterContainerStatus => do
    let range ← (Params.range form).toOption
    let _ ← range.check.toOption
    return (Query.clusterContainerStatus range).map (.ofList Metric.Sample.toJson)
  | .query => do
    let (expression, time) ← (Params.instant form).toOption
    let _ ← (gate expression).toOption
    return Query.instant expression (time.getD now)
  | .queryRange => do
    let (expression, range) ← (Params.window form).toOption
    let _ ← (gate expression).toOption
    let _ ← range.check.toOption
    return Query.window expression range
  | .rawData => do
    let id ← (Params.id form).toOption
    let analysis ← store.findAnalysis id
    let rule ← store.findRule analysis.ruleId
    let range := TimeRange.ofEpisode analysis.createdAt analysis.updatedAt
    return (Query.window rule.expression range).map fun records ↦ .object [("records", records)]
  | _ => none

namespace Endpoint

variable {gate : Expression.Gate} {store : Store} {now : Int} {form : Form} {q : Query Json}

theorem asks?_query_eq_some_iff :
    query.asks? gate store now form = some q ↔ ∃ expression time,
      Params.instant form = .ok (expression, time) ∧ gate expression = .ok () ∧
        Query.instant expression (time.getD now) = q := by
  simp [asks?, Option.bind_eq_some_iff, toOption_eq_some_iff, Unique.exists_iff]

theorem asks?_queryRange_eq_some_iff :
    queryRange.asks? gate store now form = some q ↔ ∃ expression range,
      Params.window form = .ok (expression, range) ∧ gate expression = .ok () ∧
        range.check = .ok () ∧ Query.window expression range = q := by
  simp [asks?, Option.bind_eq_some_iff, toOption_eq_some_iff, Unique.exists_iff]

theorem asks?_rawData_eq_some_iff :
    rawData.asks? gate store now form = some q ↔ ∃ id analysis rule,
      Params.id form = .ok id ∧ store.findAnalysis id = some analysis ∧
        store.findRule analysis.ruleId = some rule ∧
        (Query.window rule.expression (.ofEpisode analysis.createdAt analysis.updatedAt)).map
          (fun records ↦ .object [("records", records)]) = q := by
  simp [asks?, Option.bind_eq_some_iff, toOption_eq_some_iff]

end Endpoint

namespace Context

variable {α : Type} {gate : Expression.Gate} {ctx : Context gate} {world : World}
  {asked : Option (Query Json)} {next : Work Response}

/-- What comes of asking the detector for something, if there is anything to be asked. -/
inductive Relays (ctx : Context gate) (world : World) :
    Option (Query Json) → Response × World → Prop
  | refused {response : Response} {after : World} (hafter : after.Beside world)
    (hstatus : response.status = 400 ∨ response.status = 404) :
    Relays ctx world none (response, after)
  | asked {q : Query Json} {after : World}
    (hafter : after.Beside { world with calls := world.calls ++ [q.call] }) :
    Relays ctx world (some q)
      (respond (.ofResult ctx.trace <|
        (q.read (world.detector world.calls.length q.call)).mapError Failure.ofDetector), after)

/-- Only what stands beside the journal counts of the world. -/
theorem Relays.of_beside {before : World} {handled : Response × World}
    (h : ctx.Relays before asked handled) (hbefore : before.Beside world) :
    ctx.Relays world asked handled := by
  cases h with
  | refused hafter hstatus => exact .refused (hafter.trans hbefore) hstatus
  | @asked q after hafter =>
    rw [hbefore.detector, hbefore.calls]
    exact .asked (hafter.trans (hbefore.ask q.call))

/-- A request that is refused at once. -/
theorem relays_pure {response : Response} (h : response.status = 400 ∨ response.status = 404) :
    ctx.Relays world none ((pure response : Work Response).run world) :=
  .refused (.refl world) h

theorem relays_refuse {message : String} :
    ctx.Relays world none ((ctx.refuse message).run world) :=
  relays_pure (.inl rfl)

theorem run_query (q : Query α) (world : World) :
    ∃ after, after.Beside { world with calls := world.calls ++ [q.call] } ∧
      (Service.query q).run.run world =
        ((q.read (world.detector world.calls.length q.call)).mapError Failure.ofDetector, after) :=
  ⟨((world.perform (.log (.callingDetector q.call.params.length))).2.perform (.ask q.call)).2,
    ⟨rfl, rfl, rfl, rfl⟩, rfl⟩

/-- Work that comes to asking a query and telling what it brings is such an answer. -/
theorem relays_of_run_eq {work : Attempt Json} {toJson : α → Json} {q : Query α} {before : World}
    (hbefore : before.Beside world)
    (hwork : work.run.run world =
      (do return toJson (← Service.query q) : Attempt Json).run.run before) :
    ctx.Relays world (some (q.map toJson)) ((ctx.answer work).run world) := by
  obtain ⟨after, hasked, hquery⟩ := run_query q before
  have hresult : work.run.run world = (((q.map toJson).read
      (before.detector before.calls.length q.call)).mapError Failure.ofDetector, after) := by
    rw [hwork, Work.run_bind_run, hquery, Query.read_map]
    cases q.read (before.detector before.calls.length q.call) <;> rfl
  obtain ⟨hresponse, hafter⟩ := ctx.run_answer work world
  rw [hresult] at hresponse hafter
  have hrun : (ctx.answer work).run world = (_, _) := Prod.ext hresponse rfl
  rw [hrun]
  exact Relays.of_beside (.asked (hafter.trans hasked)) hbefore

theorem relays_answerQuery {toJson : α → Json} {q : Query α} :
    ctx.Relays world (some (q.map toJson)) ((ctx.answerQuery toJson q).run world) :=
  relays_of_run_eq (.refl world) rfl

/-- Work that misses something that is not kept. -/
theorem relays_notFound {work : Attempt Json} {entity : Store.Entity} {id : Int} {before : World}
    (hbefore : before.Beside world)
    (hwork : work.run.run world = (.error (.notFound entity id), before)) :
    ctx.Relays world none ((ctx.answer work).run world) := by
  obtain ⟨hresponse, hafter⟩ := ctx.run_answer work world
  rw [hwork] at hresponse hafter
  have hrun : (ctx.answer work).run world = (_, _) := Prod.ext hresponse rfl
  rw [hrun]
  exact .refused (hafter.trans hbefore) (.inr rfl)

/-! ## Readers -/

theorem relays_withForm {read : Form → Except Form.Fault α} {next : α → Work Response}
    {f : α → Option (Query Json)} (h : ∀ a, ctx.Relays world (f a) ((next a).run world)) :
    ctx.Relays world ((read (Form.ofText ctx.request.formText)).toOption.bind f)
      ((ctx.withForm read next).run world) := by
  unfold withForm
  cases read (Form.ofText ctx.request.formText) with
  | ok a => exact h a
  | error fault => exact relays_pure (.inl rfl)

theorem relays_withExpression {expression : String}
    (h : ctx.Relays world asked (next.run world)) :
    ctx.Relays world ((gate expression).toOption.bind fun _ ↦ asked)
      ((ctx.withExpression expression next).run world) := by
  unfold withExpression
  cases gate expression with
  | ok _ => exact h
  | error fault => exact relays_refuse

theorem relays_rangeQuery {range : TimeRange} {toJson : α → Json} {q : Query α} :
    ctx.Relays world (range.check.toOption.bind fun _ ↦ some (q.map toJson))
      ((ctx.rangeQuery range toJson q).run world) := by
  unfold rangeQuery withRange
  cases range.check with
  | ok _ => exact relays_answerQuery
  | error fault => exact relays_refuse

/-! ## Endpoints -/

theorem map_series (q : Query Json) : q.map (·) = q := by
  obtain ⟨call, decode, empty⟩ := q
  refine congrArg (Query.mk call · empty) (funext fun v ↦ ?_)
  change (fun v ↦ v) <$> decode v = decode v
  cases decode v <;> rfl

/-- An endpoint that is there to ask the detector for something asks what it is to ask, and tells
what comes back. -/
theorem relays_handle {e : Endpoint} (he : e.relays) (ctx : Context gate) (world : World) :
    ctx.Relays world (e.asks? gate world.store world.clock (Form.ofText ctx.request.formText))
      ((ctx.handle e).run world) := by
  cases e with
  | targets => exact relays_answerQuery
  | nodeInfo | nodeStatus | nodeContainerStatus =>
    exact relays_withForm fun machine ↦ relays_answerQuery
  | nodeResources => exact relays_withForm fun (machine, range) ↦ relays_rangeQuery
  | clusterResources | clusterContainerStatus =>
    exact relays_withForm fun range ↦ relays_rangeQuery
  | query =>
    refine relays_withForm fun (expression, time) ↦ relays_withExpression ?_
    rw [pure, ← map_series (.instant ..)]
    cases time with
    | some time => exact relays_answerQuery
    | none => exact relays_answerQuery
  | queryRange =>
    refine relays_withForm fun (expression, range) ↦ relays_withExpression ?_
    rw [← map_series (.window ..)]
    exact relays_rangeQuery
  | rawData =>
    refine relays_withForm fun id ↦ ?_
    obtain ⟨hnone, hrun⟩ | ⟨analysis, hanalysis, hcases⟩ :=
      Service.Analyses.run_rawData_cases id world
    · rw [hnone]
      exact relays_notFound (.refl world) (by rw [Work.run_bind_run, hrun])
    obtain ⟨hnone, hrun⟩ | ⟨rule, event, hrule, hrun⟩ := hcases
    · simp only [hanalysis, Option.bind_eq_bind, Option.bind_some, hnone, Option.bind_none]
      exact relays_notFound (.refl world) (by rw [Work.run_bind_run, hrun])
    · simp only [hanalysis, Option.bind_eq_bind, Option.bind_some, hrule]
      exact relays_of_run_eq (World.Beside.log (.refl world) event)
        (by rw [Work.run_bind_run, Work.run_bind_run, hrun])
  | _ => contradiction

end Context

end Api

/-! ## The server -/

namespace Server

open Api (Context Endpoint)

variable {gate : Expression.Gate} {r : Request} {e : Endpoint}

/-- A request to an endpoint that is there to ask the detector for something asks what it is to ask,
and is answered with what comes back. -/
theorem exists_relays (server : Server gate) (he : e.relays) (hpath : r.path = e.path)
    (hallows : e.allows r.method) (world : World) :
    ∃ trace handled,
      Context.Relays (server.context trace r) world
        (e.asks? gate world.store world.clock (Form.ofText r.formText)) handled ∧
      let served := (server.serve r).run world
      served.1.status = handled.1.status ∧ (r.method ≠ .head → served.1.body = handled.1.body) ∧
        served.2.store = handled.2.store ∧ served.2.calls = handled.2.calls := by
  have hlength : isTooLong r = false := by
    refine isTooLong_eq_false fun hpost ↦ ?_
    rw [hpost] at hallows
    cases e <;> contradiction
  obtain ⟨trace, before, hbefore, hserved⟩ := exists_run_serve server hpath hallows hlength world
  have hhandled := Context.relays_handle he (server.context trace r) before
  rw [hbefore.store, hbefore.clock] at hhandled
  exact ⟨trace, _, hhandled.of_beside hbefore, hserved⟩

theorem exists_relays_get (server : Server gate) (he : e.relays) (hmethod : r.method = .get)
    (hpath : r.path = e.path) (world : World) :
    ∃ trace handled,
      Context.Relays (server.context trace r) world
        (e.asks? gate world.store world.clock (Form.ofText r.formText)) handled ∧
      let served := (server.serve r).run world
      served.1.status = handled.1.status ∧ served.1.body = handled.1.body ∧
        served.2.store = handled.2.store ∧ served.2.calls = handled.2.calls := by
  have hallows : e.allows r.method := hmethod ▸ allows_get (Endpoint.isMutation_of_relays he)
  obtain ⟨trace, handled, hhandled, hstatus, hbody, hafter⟩ :=
    exists_relays server he hpath hallows world
  exact ⟨trace, handled, hhandled, hstatus, hbody (by simp [hmethod]), hafter⟩

/-- All that a request asks of the detector: it tells that the rules have changed, or asks what is
to be asked for its endpoint. -/
theorem exists_calls (server : Server gate) (r : Request) (world : World) :
    ∃ made, ((server.serve r).run world).2.calls = world.calls ++ made ∧
      ∀ call ∈ made, call = Detector.ruleSetChanged ∨
        ∃ e q, r.path = Endpoint.path e ∧
          e.asks? gate world.store world.clock (Form.ofText r.formText) = some q ∧
          q.call = call := by
  by_cases hreached : ∃ e : Endpoint, r.path = e.path ∧ e.allows r.method
  · obtain ⟨e, hpath, hallows⟩ := hreached
    cases hrelays : e.relays with
    | false =>
      refine ⟨_, Work.run_calls _ _, fun call hcall ↦ .inl ?_⟩
      obtain ⟨⟨s, answer⟩, hd, hs⟩ := List.mem_filterMap.mp hcall
      obtain ⟨trace, hproper⟩ := ((server.confined_serve r).run world).1 _ hd
      cases s with
      | ask call' =>
        obtain rfl : call' = call := Option.some.inj hs
        exact hproper e hpath hrelays
      | _ => contradiction
    | true =>
      obtain ⟨trace, handled, hhandled, -, -, -, hcalls⟩ :=
        exists_relays server hrelays hpath hallows world
      generalize hasked : e.asks? gate world.store world.clock (Form.ofText r.formText) = asked
        at hhandled
      cases hhandled with
      | refused hafter => exact ⟨[], by simp [hcalls, hafter.calls], by simp⟩
      | @asked q _ hafter =>
        refine ⟨[q.call], by simp [hcalls, hafter.calls], fun call hcall ↦ .inr ?_⟩
        exact ⟨e, q, hpath, hasked, (List.mem_singleton.mp hcall).symm⟩
  · have hunreached := server.run_serve_unreached (.inr fun e hpath ↦
      Bool.eq_false_iff.mpr fun hallows ↦ hreached ⟨e, hpath, hallows⟩) world
    exact ⟨[], by simp [hunreached.calls], by simp⟩

end Server

end RuleWatch
