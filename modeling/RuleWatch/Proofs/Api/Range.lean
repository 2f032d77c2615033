import RuleWatch.Proofs.Api.Question
import RuleWatch.Proofs.Api.Reachable
import RuleWatch.Proofs.Text.Integer
import RuleWatch.Proofs.TimeRange

/-!
# The ranges that the detector is asked for

Five endpoints ask the detector to look at a range of time. Four of them are given the range by the
client, and let it pass only if it has points and does not run backwards. The fifth makes a range of
the times of an analysis result, and does not look at it again: the step is at least a second, but
the range runs backwards if the analysis result does (`Server.asks_ranges`).
-/

namespace RuleWatch

open Api (Context Endpoint)
open Detector (Query rangeParams)
open Http (Form Request)
open Result

/-! ## Calls -/

namespace Detector

/-- The paths under which the detector is asked to look at a range. -/
def isRangePath (path : String) : Bool :=
  path == "/api/v1/monitor/node_resources" || path == "/api/v1/monitor/cluster_resources" ||
    path == "/api/v1/monitor/cluster_container_status" || path == "/api/v1/prometheus/query_range"

/-- The last parameters of a request are those of the range. -/
def Call.CarriesRange (call : Call) (range : TimeRange) : Prop :=
  ∃ others, call.params = others ++ rangeParams range

/-- A request has the parameters of one range at most. -/
theorem Call.CarriesRange.eq {call : Call} {range range' : TimeRange}
    (h : call.CarriesRange range) (h' : call.CarriesRange range') : range = range' := by
  obtain ⟨others, hparams⟩ := h
  obtain ⟨others', hparams'⟩ := h'
  have hsame : rangeParams range = rangeParams range' :=
    (List.append_inj' (hparams.symm.trans hparams') rfl).2
  simp only [rangeParams, List.cons.injEq, Prod.mk.injEq, true_and, and_true] at hsame
  obtain ⟨hstart, hfinish, hstep⟩ := hsame
  obtain ⟨start, finish, step⟩ := range
  obtain rfl := Text.toString_injective hstart
  obtain rfl := Text.toString_injective hfinish
  obtain rfl := Text.toString_injective hstep
  rfl

end Detector

/-! ## Endpoints -/

namespace Api.Endpoint

variable {gate : Expression.Gate} {store : Store} {now : Int} {form : Form} {q : Query Json}

/-- The metrics are asked for that are behind an analysis result which runs backwards: it was
changed, its times say, before it was made. -/
def AsksBackward (store : Store) (form : Form) (e : Endpoint) : Prop :=
  e = .rawData ∧ ∃ id analysis, Params.id form = .ok id ∧ store.findAnalysis id = some analysis ∧
    analysis.updatedAt < analysis.createdAt

/-- What is asked under the path of a range has a step, and runs backwards only if an analysis
result does. -/
theorem exists_range {e : Endpoint} (hasked : e.asks? gate store now form = some q)
    (hpath : Detector.isRangePath q.call.path) :
    ∃ range, q.call.CarriesRange range ∧ 1 ≤ range.step ∧
      (range.check = .ok () ↔ ¬ e.AsksBackward store form) := by
  have hchecked : ∀ {range : TimeRange}, range.check = .ok () → e ≠ .rawData →
      1 ≤ range.step ∧ (range.check = .ok () ↔ ¬ e.AsksBackward store form) := fun hrange he ↦
    ⟨(TimeRange.check_eq_ok_iff.mp hrange).1, iff_of_true hrange fun h ↦ he h.1⟩
  cases e with
  | nodeResources =>
    simp only [asks?, Option.bind_eq_bind, Option.pure_def, Option.bind_eq_some_iff,
      toOption_eq_some_iff] at hasked
    obtain ⟨⟨machine, range⟩, -, _, hrange, hq⟩ := hasked
    cases hq
    exact ⟨range, ⟨[("instance", machine)], rfl⟩, hchecked hrange (by simp)⟩
  | clusterResources | clusterContainerStatus =>
    simp only [asks?, Option.bind_eq_bind, Option.pure_def, Option.bind_eq_some_iff,
      toOption_eq_some_iff] at hasked
    obtain ⟨range, -, _, hrange, hq⟩ := hasked
    cases hq
    exact ⟨range, ⟨[], rfl⟩, hchecked hrange (by simp)⟩
  | queryRange =>
    obtain ⟨expression, range, -, -, hrange, rfl⟩ := asks?_queryRange_eq_some_iff.mp hasked
    exact ⟨range, ⟨[("query", expression)], rfl⟩, hchecked hrange (by simp)⟩
  | rawData =>
    obtain ⟨id, analysis, rule, hid, hanalysis, -, rfl⟩ := asks?_rawData_eq_some_iff.mp hasked
    refine ⟨.ofEpisode analysis.createdAt analysis.updatedAt, ⟨[("query", rule.expression)], rfl⟩,
      TimeRange.one_le_step_ofEpisode, ?_⟩
    rw [TimeRange.check_eq_ok_iff]
    constructor
    · rintro ⟨-, horder⟩ ⟨-, id', analysis', hid', hanalysis', hbackward⟩
      obtain rfl := Except.ok.inj (hid.symm.trans hid')
      obtain rfl := Option.some.inj (hanalysis.symm.trans hanalysis')
      exact Int.not_lt.mpr horder hbackward
    · exact fun hforward ↦ ⟨TimeRange.one_le_step_ofEpisode, Int.not_lt.mp fun hbackward ↦
        hforward ⟨rfl, id, analysis, hid, hanalysis, hbackward⟩⟩
  | query =>
    obtain ⟨expression, time, -, -, rfl⟩ := asks?_query_eq_some_iff.mp hasked
    contradiction
  | targets =>
    cases hasked
    contradiction
  | nodeInfo | nodeStatus | nodeContainerStatus =>
    simp only [asks?, Option.bind_eq_bind, Option.pure_def, Option.bind_eq_some_iff] at hasked
    obtain ⟨machine, -, hq⟩ := hasked
    cases hq
    contradiction
  | _ => contradiction

end Api.Endpoint

/-! ## The server -/

namespace Server

/-- Every request to look at a range has one range, with a step of at least a second. The range can
be looked at, unless it is that of an analysis result which runs backwards. -/
theorem asks_ranges {gate : Expression.Gate} (server : Server gate) (r : Request) (world : World) :
    ∃ made, ((server.serve r).run world).2.calls = world.calls ++ made ∧
      ∀ call ∈ made, Detector.isRangePath call.path →
        ∃ (range : TimeRange) (e : Endpoint), call.CarriesRange range ∧ 1 ≤ range.step ∧
          r.path = e.path ∧
          (range.check = .ok () ↔ ¬ e.AsksBackward world.store (Form.ofText r.formText)) := by
  obtain ⟨made, hcalls, hmade⟩ := server.exists_calls r world
  refine ⟨made, hcalls, fun call hcall hrange ↦ ?_⟩
  obtain rfl | ⟨e, q, hpath, hasked, rfl⟩ := hmade call hcall
  · contradiction
  · obtain ⟨range, hcarries, hstep, hcheck⟩ := Endpoint.exists_range hasked hrange
    exact ⟨range, e, hcarries, hstep, hpath, hcheck⟩

/-- A rule is made, and an episode of it is recorded that ends before it starts. Somebody asks for
the metrics behind it: the detector is asked for a range that cannot be looked at. -/
theorem asks_backward_range :
    let server : Server := ⟨0⟩
    let world : World := .fresh 0 Detector.silent fun _ ↦ .replicate drawLength 0
    let store := ((Crowd.start world).run server.serve
      [.arrival makeDisk, .turn 0, .turn 0, .episode ⟨1, "disk", "fault", 1, 10, 5⟩]).world.store
    let r : Request := ⟨.get, "/api/v1/analysis/result/raw_data?id=1", [], []⟩
    server.Reaches store ∧ ∃ call, ((server.serve r).run { world with store }).2.calls = [call] ∧
      Detector.isRangePath call.path ∧ call.CarriesRange ⟨10, 5, 1⟩ ∧
      ∀ range, call.CarriesRange range → range.check = .error .order := by
  intro server world store r
  have hcarries : Detector.Call.CarriesRange ⟨"/api/v1/prometheus/query_range",
      ("query", "disk_usage") :: rangeParams ⟨10, 5, 1⟩⟩ ⟨10, 5, 1⟩ :=
    ⟨[("query", "disk_usage")], rfl⟩
  refine ⟨⟨world, _, rfl, rfl⟩, _, ?_, rfl, hcarries, fun range hrange ↦ ?_⟩
  · decide +kernel
  · rw [hrange.eq hcarries]
    rfl

end Server

end RuleWatch
