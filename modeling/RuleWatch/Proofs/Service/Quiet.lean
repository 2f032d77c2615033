import RuleWatch.Proofs.Work.Effect
import RuleWatch.Service.Analyses
import RuleWatch.Service.Rules

/-!
# Requests without effects

What only asks for something changes no row, and does not tell the detector that rules have changed.
-/

namespace RuleWatch.Service

variable {α : Type}

theorem isQuiet_log {event : Journal.Event} : (log event).run.IsQuiet :=
  fun _ ↦ ⟨Step.isQuiet_log, fun _ ↦ trivial⟩

theorem isQuiet_store {op : Store.Operation} (h : (Step.store op).isQuiet) :
    (store op).run.IsQuiet :=
  fun _ ↦ ⟨h, fun _ ↦ trivial⟩

theorem isQuiet_ofStore {result : Except Store.Failure α} : (ofStore result).run.IsQuiet :=
  fun _ ↦ trivial

theorem isQuiet_ask {call : Detector.Call} (h : (Step.ask call).isQuiet) :
    (ask call).run.IsQuiet :=
  fun _ ↦ ⟨Step.isQuiet_log, fun _ ↦ ⟨h, fun _ ↦ trivial⟩⟩

theorem isQuiet_query {q : Detector.Query α} (h : (Step.ask q.call).isQuiet) :
    (query q).run.IsQuiet :=
  (isQuiet_ask h).run_bind fun _ _ ↦ trivial

theorem Rules.isQuiet_get {id : Int} : (Rules.get id).run.IsQuiet := by
  refine (isQuiet_store Step.isQuiet_findRule).run_bind fun found ↦ ?_
  cases found with
  | none => exact .run_throw
  | some rule => exact .run_pure

theorem Analyses.isQuiet_get {id : Int} : (Analyses.get id).run.IsQuiet := by
  refine (isQuiet_store rfl).run_bind fun found ↦ ?_
  cases found with
  | none => exact .run_throw
  | some analysis => exact .run_pure

theorem Analyses.isQuiet_rawData {id : Int} : (Analyses.rawData id).run.IsQuiet := by
  refine Analyses.isQuiet_get.run_bind fun analysis ↦ ?_
  refine (isQuiet_store Step.isQuiet_findRule).run_bind fun found ↦ ?_
  cases found with
  | none => exact .run_throw
  | some rule => exact isQuiet_log.run_bind fun _ ↦ isQuiet_query rfl

end RuleWatch.Service
