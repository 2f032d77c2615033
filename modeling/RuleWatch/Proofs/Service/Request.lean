import RuleWatch.Proofs.Service.Miss
import RuleWatch.Proofs.Service.Quiet
import RuleWatch.Proofs.Service.Run

/-!
# All requests

Whatever the service can be asked for, in one type. Next to the requests that change something there
are those that only look: at a rule or an analysis result, at a page of them, or at the metrics
behind an analysis result.
-/

namespace RuleWatch.Service

open Listing
open Work

/-- Anything that the service can be asked for. -/
inductive Request
  | change (q : Mutation)
  | rule (id : Int)
  | rules (filter : Option String) (order : Order RuleField) (page : Page)
  | analysis (id : Int)
  | analyses (filter : Option String) (order : Order AnalysisField) (page : Page)
  /-- The metrics behind the analysis result with this id. -/
  | metrics (id : Int)

/-- What a request that is served brings. -/
inductive Yield
  | changed (kept : Option Rule)
  | rule (rule : Rule)
  | rules (rows : List Rule × Nat)
  | analysis (analysis : Analysis)
  | analyses (rows : List Analysis × Nat)
  | metrics (data : Json)

namespace Request

variable {gate : Expression.Gate} {world : World} {id : Int}

/-- What is done for a request. -/
def serve (gate : Expression.Gate) : Request → Attempt Yield
  | .change q => .changed <$> q.serve gate
  | .rule id => .rule <$> Rules.get id
  | .rules filter order page => .rules <$> Rules.list filter order page
  | .analysis id => .analysis <$> Analyses.get id
  | .analyses filter order page => .analyses <$> Analyses.list filter order page
  | .metrics id => .metrics <$> Analyses.rawData id

/-! ## Analysis results are kept -/

/-- No request takes analysis results away but the one that is there for it. -/
def May (q : Request) (_ : List Deed) (s : Step) : Prop :=
  ∀ id, s = .store (.deleteAnalysis id) → q = .change (.deleteAnalysis id)

theorem keeps_serve (gate : Expression.Gate) (q : Request) :
    Keeps q.May (fun _ _ ↦ True) [] (q.serve gate).run := by
  have hquiet : ∀ {α β : Type} {attempt : Attempt α} {f : α → β}, attempt.run.IsQuiet →
      Keeps q.May (fun _ _ ↦ True) [] (f <$> attempt).run := by
    intro α β attempt f h
    refine Keeps.map ((h []).mono (fun deeds s hs id hdelete ↦ ?_) fun _ _ _ ↦ trivial)
      fun _ _ _ ↦ trivial
    subst hdelete
    contradiction
  cases q with
  | change q =>
    refine Keeps.map ((Mutation.keeps_serve gate q).mono (fun deeds s hs id hdelete ↦ ?_)
      fun _ _ _ ↦ trivial) fun _ _ _ ↦ trivial
    subst hdelete
    exact congrArg Request.change hs
  | rule id => exact hquiet Rules.isQuiet_get
  | rules filter order page =>
    exact hquiet ((isQuiet_store rfl).run_bind fun _ ↦ isQuiet_ofStore)
  | analysis id => exact hquiet Analyses.isQuiet_get
  | analyses filter order page =>
    exact hquiet ((isQuiet_store rfl).run_bind fun _ ↦ isQuiet_ofStore)
  | metrics id => exact hquiet Analyses.isQuiet_rawData

/-- A step of a request leaves the analysis results alone, if the request is not there to delete
one. -/
theorem May.analyses_perform {q : Request} {deeds : List Deed} {s : Step} (h : q.May deeds s)
    (hq : ∀ id, q ≠ .change (.deleteAnalysis id)) :
    (world.perform s).2.store.analyses = world.store.analyses := by
  cases s with
  | store op => exact Store.analyses_perform fun id hop ↦ hq id (h id (congrArg Step.store hop))
  | _ => rfl

/-! ## Rules that are not there -/

theorem stopsAtMiss_serve (gate : Expression.Gate) (q : Request) :
    (q.serve gate).run.StopsAtMiss false := by
  cases q with
  | change q =>
    refine StopsAtMiss.map ?_ _
    cases q with
    | createRule draft => exact Rules.stopsAtMiss_create.map _
    | updateRule id changes => exact Rules.stopsAtMiss_update.map _
    | deleteRule id => exact Rules.stopsAtMiss_delete.map _
    | deleteAnalysis id => exact Analyses.stopsAtMiss_delete.map _
  | rule id => exact Rules.stopsAtMiss_get.map _
  | rules filter order page =>
    exact (stopsAtMiss_store_bind_of_rule? rfl fun answer ↦ by cases answer <;> trivial).map _
  | analysis id => exact Analyses.stopsAtMiss_get.map _
  | analyses filter order page =>
    exact (stopsAtMiss_store_bind_of_rule? rfl fun answer ↦ by cases answer <;> trivial).map _
  | metrics id => exact Analyses.stopsAtMiss_rawData.map _

/-- A request that misses a rule says so, and has not called the detector. -/
theorem keeps_reportsMiss (gate : Expression.Gate) (q : Request) :
    Keeps (fun _ _ ↦ True) ReportsMiss [] (q.serve gate).run :=
  (stopsAtMiss_serve gate q).keeps (by simp) (by simp)

/-- The request needs the rule with this id: it is there to show, change or delete it, or to bring
the metrics behind an analysis result that is one of the rule, as far as analysis results are
found. -/
def Needs (id : Int) (found : Int → Option Analysis) : Request → Prop
  | .rule target | .change (.updateRule target _) | .change (.deleteRule target) => target = id
  | .metrics target => ∃ analysis ∈ found target, analysis.ruleId = id
  | _ => False

end Request

end RuleWatch.Service

namespace RuleWatch

/-- The analysis result that a deed has found. -/
def Deed.analysis? : Deed → Option Analysis
  | ⟨.store (.findAnalysis _), answer⟩ => answer
  | _ => none

/-- What has been done stays done. -/
theorem Work.keeps_deeds {α : Type} (work : Work α) (deeds : List Deed) :
    work.Keeps (fun _ _ ↦ True) (fun deeds' _ ↦ deeds <+: deeds') deeds := by
  induction work generalizing deeds with
  | done result => exact List.prefix_rfl
  | step s next ih =>
    refine ⟨trivial, fun world ↦ (ih _ _).imp fun deeds' _ hprefix ↦ ?_⟩
    exact (List.prefix_append ..).trans hprefix

namespace Service.Request

open Work

variable {gate : Expression.Gate} {world : World} {id : Int}

/-- What a request needs it looks for; what analysis result it is about, its first deed tells. -/
theorem keeps_needs (gate : Expression.Gate) (q : Request) :
    Keeps (fun _ _ ↦ True)
      (fun deeds _ ↦ ∀ id, q.Needs id (fun _ ↦ deeds.head?.bind Deed.analysis?) →
        ∃ d ∈ deeds, d.step.rule? = some id)
      [] (q.serve gate).run := by
  -- the first step is about the rule
  have hfirst : ∀ {α : Type} {s : Step} {next : s.Answer → Work α} {target : Int},
      s.rule? = some target →
        Keeps (fun _ _ ↦ True)
          (fun deeds _ ↦ ∀ id, target = id → ∃ d ∈ deeds, d.step.rule? = some id)
          [] (.step s next) := by
    intro α s next target hs
    refine ⟨trivial, fun world ↦ (keeps_deeds _ _).imp fun deeds _ hprefix id hid ↦ ?_⟩
    exact ⟨_, hprefix.subset (List.mem_singleton_self _), hid ▸ hs⟩
  have hidle : ∀ {α : Type} {work : Work α} {holds : Int → List Deed → Prop},
      Keeps (fun _ _ ↦ True) (fun deeds _ ↦ ∀ id, False → holds id deeds) [] work :=
    fun {_ work _} ↦ (keeps_deeds work []).imp fun _ _ _ _ ↦ False.elim
  cases q with
  | rule target => exact hfirst rfl
  | change q =>
    cases q with
    | updateRule target changes => exact hfirst rfl
    | deleteRule target => exact hfirst rfl
    | _ => exact hidle
  | metrics target =>
    refine ⟨trivial, fun world ↦ ?_⟩
    cases (world.perform (.store (.findAnalysis target))).1 with
    | none =>
      rintro id ⟨analysis, hanalysis, -⟩
      contradiction
    | some analysis =>
      refine ⟨trivial, fun world ↦ (keeps_deeds _ _).imp fun deeds _ hprefix id hneeds ↦ ?_⟩
      have hlooked := hprefix.subset (List.mem_append_right _ (List.mem_singleton_self _))
      obtain ⟨rest, rfl⟩ := hprefix
      obtain ⟨found, hfound, hid⟩ := hneeds
      obtain rfl : analysis = found := Option.some.inj hfound
      exact ⟨_, hlooked, congrArg some hid⟩
  | _ => exact hidle

/-- A request that needs a rule that is not there fails at once, and leaves the world as it is. -/
theorem run_of_needs {q : Request} (h : world.store.findRule id = none)
    (hq : q.Needs id world.store.findAnalysis) :
    (q.serve gate).run.run world = (.error (.notFound .rule id), world) := by
  cases q with
  | rule target =>
    obtain rfl : target = id := hq
    have hget : (Rules.get target).run.run world = (.error (.notFound .rule target), world) := by
      change (Work.run (.step (.store (.findRule target)) _) world) = _
      simp only [Work.run, World.perform, Store.perform, h]
      rfl
    rw [serve, Work.run_map_run, hget]
    rfl
  | change q =>
    cases q with
    | updateRule target changes =>
      obtain rfl : target = id := hq
      obtain ⟨-, heq⟩ | ⟨old, hold, -⟩ := Rules.run_update_cases gate target changes world
      · rw [serve, Work.run_map_run, Mutation.serve, Work.run_map_run, heq]
        rfl
      · rw [h] at hold
        contradiction
    | deleteRule target =>
      obtain rfl : target = id := hq
      obtain ⟨-, heq⟩ | ⟨hsome, -⟩ := Rules.run_delete_cases target world
      · rw [serve, Work.run_map_run, Mutation.serve, Work.run_map_run, heq]
        rfl
      · rw [h] at hsome
        contradiction
    | _ => exact hq.elim
  | metrics target =>
    obtain ⟨analysis, hanalysis, rfl⟩ := hq
    obtain ⟨hnone, -⟩ | ⟨found, hfound, hcases⟩ := Analyses.run_rawData_cases target world
    · rw [hnone] at hanalysis
      contradiction
    obtain rfl : analysis = found := Option.some.inj (hanalysis.symm.trans hfound)
    obtain ⟨-, heq⟩ | ⟨rule, _, hrule, -⟩ := hcases
    · rw [serve, Work.run_map_run, heq]
      rfl
    · rw [h] at hrule
      contradiction
  | _ => exact hq.elim

end Service.Request

end RuleWatch
