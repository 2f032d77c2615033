import RuleWatch.Proofs.Service.Mutation
import RuleWatch.Proofs.Store.Sound
import RuleWatch.Proofs.Work.Confined

/-!
# Proper steps

What a request does is proper as far as each of its steps can tell: what it writes in the journal
speaks of no other trace id than its own, it brings nothing to the store that is not sound, and it
asks the detector nothing but what it is there to ask. All that the service does is proper, under
any trace id, since the service itself knows of none.
-/

namespace RuleWatch

/-- The trace id that an event speaks of, if any. -/
def Journal.Event.trace? (e : Event) : Option String :=
  e.fields.lookup "trace_id"

/-- The step of a request is proper: the request has a trace id, and is there to do calls of some
kind. -/
def Step.IsProper (gate : Expression.Gate) (calls : Detector.Call → Prop) (trace : String) :
    Step → Prop
  | .log event => ∀ t, event.trace? = some t → t = trace
  | .store op => op.IsSound gate
  | .ask call => calls call
  | _ => True

theorem Step.IsProper.mono {gate : Expression.Gate} {calls calls' : Detector.Call → Prop}
    {trace : String} {s : Step} (h : s.IsProper gate calls trace)
    (hcalls : ∀ call, calls call → calls' call) : s.IsProper gate calls' trace := by
  cases s with
  | ask call => exact hcalls call h
  | _ => exact h

/-- An event without a trace id may be written down under any. -/
theorem Step.isProper_log {gate : Expression.Gate} {calls : Detector.Call → Prop} {trace : String}
    {event : Journal.Event} (h : event.trace? = none) : (log event).IsProper gate calls trace := by
  intro t ht
  rw [h] at ht
  contradiction

namespace Service

open Detector (acknowledge ruleSetChanged)
open Listing
open Work

variable {α β : Type} {gate : Expression.Gate} {calls : Detector.Call → Prop} {trace : String}

/-- The work is proper in all its steps. -/
abbrev IsProper (gate : Expression.Gate) (calls : Detector.Call → Prop) (trace : String)
    (attempt : Attempt α) : Prop :=
  attempt.run.Confined (Step.IsProper gate calls trace) fun _ ↦ True

theorem isProper_log {event : Journal.Event} (h : event.trace? = none) :
    IsProper gate calls trace (log event) :=
  ⟨Step.isProper_log h, fun _ ↦ trivial⟩

theorem isProper_store_bind {op : Store.Operation} {f : op.Answer → Attempt β}
    (h : op.IsSound gate) (hf : ∀ answer, IsProper gate calls trace (f answer)) :
    IsProper gate calls trace (store op >>= f) :=
  ⟨h, hf⟩

theorem isProper_ofStore {result : Except Store.Failure α} :
    IsProper gate calls trace (ofStore result) := trivial

theorem isProper_ask {call : Detector.Call} (h : calls call) :
    IsProper gate calls trace (ask call) :=
  ⟨Step.isProper_log rfl, fun _ ↦ ⟨h, fun _ ↦ trivial⟩⟩

theorem isProper_query {q : Detector.Query α} (h : calls q.call) :
    IsProper gate calls trace (query q) :=
  (isProper_ask h).run_bind fun _ ↦ trivial

/-- What is done with a draft that has passed the check. -/
theorem isProper_check_bind {draft : Rule.Draft} {f : Unit → Attempt β}
    (h : draft.checkBy gate = .ok () → IsProper gate calls trace (f ())) :
    IsProper gate calls trace (Rules.check gate draft >>= f) := by
  cases hcheck : draft.checkBy gate with
  | error reason =>
    rw [Rules.check_bind_of_error hcheck]
    exact .run_throw
  | ok _ =>
    rw [Rules.check_bind_of_ok hcheck]
    exact h hcheck

namespace Rules

theorem isProper_list {filter : Option String} {order : Order RuleField}
    {page : Page} : IsProper gate calls trace (list filter order page) :=
  isProper_store_bind trivial fun _ ↦ isProper_ofStore

theorem isProper_get {id : Int} : IsProper gate calls trace (get id) := by
  refine isProper_store_bind trivial fun found ↦ ?_
  cases found with
  | some rule => exact .run_pure
  | none => exact .run_throw

theorem isProper_announce {id : Int} (h : calls ruleSetChanged) :
    IsProper gate calls trace (announce id) := by
  refine (isProper_ask h).run_bind fun answer ↦ ?_
  cases acknowledge ruleSetChanged answer with
  | ok data => exact .run_pure
  | error failure => exact (isProper_log rfl).run_bind fun _ ↦ .run_throw

/-- What is left to do once a change of a rule has been kept. -/
theorem isProper_announce_kept {event : Journal.Event} {id : Int} {a : α} (h : calls ruleSetChanged)
    (hevent : event.trace? = none) :
    IsProper gate calls trace (do log event; announce id; return a : Attempt α) :=
  (isProper_log hevent).run_bind fun _ ↦ (isProper_announce h).run_bind fun _ ↦ .run_pure

theorem isProper_create {draft : Rule.Draft} (h : calls ruleSetChanged) :
    IsProper gate calls trace (create gate draft) := by
  refine isProper_check_bind fun hcheck ↦ ?_
  refine isProper_store_bind (Rule.Draft.isSound_normalize hcheck) fun _ ↦ ?_
  exact isProper_ofStore.run_bind fun rule ↦ isProper_announce_kept h rfl

theorem isProper_update {id : Int} {changes : Rule.Changes} (h : calls ruleSetChanged) :
    IsProper gate calls trace (update gate id changes) := by
  refine isProper_get.run_bind fun current ↦ isProper_check_bind fun hcheck ↦ ?_
  refine isProper_store_bind (Rule.isSound_merged hcheck) fun _ ↦ ?_
  exact isProper_ofStore.run_bind fun rule ↦ isProper_announce_kept h rfl

theorem isProper_delete {id : Int} (h : calls ruleSetChanged) :
    IsProper gate calls trace (delete id) := by
  refine isProper_store_bind trivial fun _ ↦ isProper_ofStore.run_bind fun _ ↦ ?_
  exact (isProper_log rfl).run_bind fun _ ↦ isProper_announce h

end Rules

namespace Analyses

theorem isProper_list {filter : Option String} {order : Order AnalysisField}
    {page : Page} : IsProper gate calls trace (list filter order page) :=
  isProper_store_bind trivial fun _ ↦ isProper_ofStore

theorem isProper_get {id : Int} : IsProper gate calls trace (get id) := by
  refine isProper_store_bind trivial fun found ↦ ?_
  cases found with
  | some analysis => exact .run_pure
  | none => exact .run_throw

theorem isProper_delete {id : Int} : IsProper gate calls trace (delete id) :=
  isProper_store_bind trivial fun _ ↦ isProper_ofStore.run_bind fun _ ↦ isProper_log rfl

theorem isProper_rawData {id : Int} (h : ∀ call, calls call) :
    IsProper gate calls trace (rawData id) := by
  refine isProper_get.run_bind fun analysis ↦ ?_
  refine isProper_store_bind trivial fun found ↦ ?_
  cases found with
  | none => exact .run_throw
  | some rule => exact (isProper_log rfl).run_bind fun _ ↦ isProper_query (h _)

end Analyses

end Service

end RuleWatch
