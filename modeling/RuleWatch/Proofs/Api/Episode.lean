import RuleWatch.Proofs.Api.Question
import RuleWatch.Proofs.Concurrent.LastWrite
import RuleWatch.Proofs.TimeRange

/-!
# The metrics behind an analysis result

An analysis result leads to its rule, and the two of them to a request to the detector: for the
expression that the rule has now, over the time of the episode. When one of them is missing nothing
is asked. What the detector brings is told as it is (`Server.tells_episode`), and however long an
episode is, not more than 500 points of it are asked for (`TimeRange.ofEpisode_is_bounded`).
-/

namespace RuleWatch

open Api (Context Endpoint)
open Detector (Query Says)
open Http (Form Request)

/-! ## The service -/

namespace Service.Analyses

/-- An analysis result may be missing, or its rule, and nothing is asked then; or both are there,
and the detector is asked once. -/
inductive Fetches (id : Int) (world : World) : Except Failure Json × World → Prop
  | noAnalysis {after : World} (hafter : after.Beside world)
    (h : world.store.findAnalysis id = none) :
    Fetches id world (.error (.notFound .analysis id), after)
  | noRule {after : World} {analysis : Analysis} (hafter : after.Beside world)
    (h : world.store.findAnalysis id = some analysis)
    (hrule : world.store.findRule analysis.ruleId = none) :
    Fetches id world (.error (.notFound .rule analysis.ruleId), after)
  | asked {after : World} {analysis : Analysis} {rule : Rule} {q : Query Json}
    (hafter : after.Beside { world with calls := world.calls ++ [q.call] })
    (h : world.store.findAnalysis id = some analysis)
    (hrule : world.store.findRule analysis.ruleId = some rule)
    (hq : q = .window rule.expression (.ofEpisode analysis.createdAt analysis.updatedAt)) :
    Fetches id world
      ((q.read (world.detector world.calls.length q.call)).mapError .ofDetector, after)

variable {id : Int} {world : World}

theorem fetches_rawData (id : Int) (world : World) :
    Fetches id world ((rawData id).run.run world) := by
  obtain ⟨hnone, hrun⟩ | ⟨analysis, hanalysis, hcases⟩ := run_rawData_cases id world
  · rw [hrun]
    exact .noAnalysis (.refl world) hnone
  obtain ⟨hnone, hrun⟩ | ⟨rule, event, hrule, hrun⟩ := hcases
  · rw [hrun]
    exact .noRule (.refl world) hanalysis hnone
  · obtain ⟨after, hafter, hquery⟩ := Context.run_query
      (.window rule.expression (.ofEpisode analysis.createdAt analysis.updatedAt))
      (world.perform (.log event)).2
    rw [hrun, hquery]
    exact .asked (hafter.trans ((World.Beside.log (.refl world) event).ask _)) hanalysis hrule rfl

/-- Only what stands beside the journal counts of the world. -/
theorem Fetches.of_beside {before : World} {fetched : Except Failure Json × World}
    (h : Fetches id before fetched) (hbefore : before.Beside world) : Fetches id world fetched := by
  cases h with
  | noAnalysis hafter h => exact .noAnalysis (hafter.trans hbefore) (hbefore.store ▸ h)
  | noRule hafter h hrule =>
    exact .noRule (hafter.trans hbefore) (hbefore.store ▸ h) (hbefore.store ▸ hrule)
  | @asked after analysis rule q hafter h hrule hq =>
    rw [hbefore.detector, hbefore.calls]
    exact .asked (hafter.trans (hbefore.ask q.call)) (hbefore.store ▸ h) (hbefore.store ▸ hrule) hq

/-- What is asked for an analysis result is the range of its episode. -/
theorem exists_calls_rawData {analysis : Analysis}
    (h : world.store.findAnalysis id = some analysis) :
    ∃ made, ((rawData id).run.run world).2.calls = world.calls ++ made ∧
      ∀ call ∈ made, ∃ expression, call =
        (Query.window expression (.ofEpisode analysis.createdAt analysis.updatedAt)).call := by
  have hfetches := fetches_rawData id world
  generalize (rawData id).run.run world = fetched at hfetches ⊢
  cases hfetches with
  | noAnalysis hafter _ | noRule hafter _ _ => exact ⟨[], by simp [hafter.calls], by simp⟩
  | @asked after found rule q hafter hfound _ hq =>
    obtain rfl : found = analysis := Option.some.inj (hfound.symm.trans h)
    refine ⟨[q.call], hafter.calls, fun call hcall ↦ ⟨rule.expression, ?_⟩⟩
    rw [List.mem_singleton.mp hcall, hq]

end Service.Analyses

/-- The range of an episode is from its start to its end. It can be looked at, and has as many whole
steps as the episode has seconds when these are less than 250, and from 250 to 499 otherwise; so it
is looked at not more than 500 times. Words of 64 bits bring the same step, and what is asked for an
analysis result is the range of its episode. -/
theorem TimeRange.ofEpisode_is_bounded {start finish : Int} (h : start ≤ finish) :
    let range := ofEpisode start finish
    (range.start = start ∧ range.finish = finish ∧ 1 ≤ range.step ∧ range.check = .ok ()) ∧
    (range.wholeSteps ≤ 499 ∧
      (finish - start < 250 → range.wholeSteps = finish - start) ∧
      (250 ≤ finish - start → 250 ≤ range.wholeSteps)) ∧
    (range.points.length ≤ 500 ∧
      ∀ t, t ∈ range.points ↔ start ≤ t ∧ t ≤ finish ∧ range.step ∣ t - start) ∧
    (∀ s f : Int64, s.toInt = start → f.toInt = finish → finish - start ≤ Text.maxInt64 →
      (wordStep s f).toInt = range.step) ∧
    ∀ (id : Int) (world : World) (analysis : Analysis),
      world.store.findAnalysis id = some analysis → analysis.createdAt = start →
      analysis.updatedAt = finish →
        ∃ made, ((Service.Analyses.rawData id).run.run world).2.calls = world.calls ++ made ∧
          ∀ call ∈ made, ∃ expression, call = (Query.window expression range).call := by
  intro range
  refine ⟨⟨rfl, rfl, one_le_step_ofEpisode, check_ofEpisode h⟩,
    ⟨wholeSteps_ofEpisode_le h, wholeSteps_of_lt h, fun hlong ↦ (wholeSteps_of_le h hlong).1⟩,
    ⟨length_points_ofEpisode_le h, fun _ ↦ mem_points_iff (check_ofEpisode h)⟩, ?_, ?_⟩
  · rintro s f rfl rfl hfits
    exact toInt_wordStep (by unfold Text.minInt64; omega) hfits
  · rintro id world analysis hanalysis rfl rfl
    exact Service.Analyses.exists_calls_rawData hanalysis

/-- No length has more whole steps than 499 seconds. -/
theorem TimeRange.ofEpisode_is_bounded_of_longest :
    (0 : Int) ≤ 499 ∧ (ofEpisode 0 499).wholeSteps = 499 ∧ (ofEpisode 0 499).wholeSteps ≤ 499 ∧
      (wordStep 0 499).toInt = (ofEpisode 0 499).step :=
  have hbounded := @ofEpisode_is_bounded 0 499 (by decide)
  ⟨by decide, by decide, hbounded.2.1.1, hbounded.2.2.2.1 0 499 rfl rfl (by decide)⟩

/-! ## The handler -/

namespace Detector.Query

/-- Metrics are passed on as they are. -/
theorem read_forSeries (path : String) (params : List (String × String)) (answer : Option Bytes) :
    (forSeries path params).read answer = acknowledge ⟨path, params⟩ answer := by
  change (acknowledge ⟨path, params⟩ answer >>= decodeData path .ok .null) = _
  cases acknowledge ⟨path, params⟩ answer with
  | error failure => rfl
  | ok data => cases data <;> rfl

end Detector.Query

/-- The result is told as it is, the data as the member `records`. -/
theorem Api.Context.run_rawData {gate : Expression.Gate} {ctx : Context gate} {id : Int}
    (hid : Params.id (Form.ofText ctx.request.formText) = .ok id) (world : World) :
    ∃ after, after.Beside ((Service.Analyses.rawData id).run.run world).2 ∧
      (ctx.handle .rawData).run world =
        (respond (.ofResult ctx.trace ((fun records ↦ .object [("records", records)]) <$>
          ((Service.Analyses.rawData id).run.run world).1)), after) := by
  let work : Attempt Json := do
    let records ← Service.Analyses.rawData id
    return .object [("records", records)]
  have hhandle : ctx.handle .rawData = ctx.answer work := by
    change ctx.withForm Params.id _ = _
    rw [withForm, hid]
  obtain ⟨hresponse, hafter⟩ := ctx.run_answer work world
  have hwork : work.run.run world = ((fun records ↦ Json.object [("records", records)]) <$>
      ((Service.Analyses.rawData id).run.run world).1,
      ((Service.Analyses.rawData id).run.run world).2) := by
    rw [Work.run_bind_run]
    generalize (Service.Analyses.rawData id).run.run world = fetched
    obtain ⟨_ | data, after⟩ := fetched <;> rfl
  rw [hwork] at hresponse hafter
  rw [hhandle]
  exact ⟨_, hafter, Prod.ext hresponse rfl⟩

/-! ## The server -/

namespace Server

open Service (Mutation)

variable {gate : Expression.Gate} {r : Request} {id : Int}

/-- A request for the metrics behind an analysis result tells what the service fetches. -/
theorem exists_fetches (server : Server gate) (hmethod : r.method = .get)
    (hpath : r.path = Endpoint.rawData.path)
    (hid : Api.Params.id (Form.ofText r.formText) = .ok id) (world : World) :
    ∃ trace fetched, Service.Analyses.Fetches id world fetched ∧
      let served := (server.serve r).run world
      served.1.Carries
        (.ofResult trace ((fun records ↦ .object [("records", records)]) <$> fetched.1)) ∧
      served.2.store = fetched.2.store ∧ served.2.calls = fetched.2.calls := by
  obtain ⟨trace, before, hbefore, hstatus, hbody, hstore, hcalls⟩ :=
    server.exists_run_serve_get (e := .rawData) rfl hmethod hpath world
  let ctx := server.context trace r
  obtain ⟨after, hafter, hhandled⟩ := ctx.run_rawData hid before
  rw [hhandled] at hstatus hbody hstore hcalls
  exact ⟨trace, _, (Service.Analyses.fetches_rawData id before).of_beside hbefore,
    ⟨hstatus, hbody⟩, hstore.trans hafter.store, hcalls.trans hafter.calls⟩

end Server

end RuleWatch
