import RuleWatch.Proofs.Service.Mutation
import RuleWatch.Proofs.Work.Coupled

/-!
# The service under two detectors

What the service does with the store does not depend on the detector: it looks at an answer of the
detector only when it has nothing left to do there. So two runs of a request to change a rule fail
alike, or both keep the same change, and differ at most in whether the detector acknowledges it.
-/

namespace RuleWatch.Service

open Detector (acknowledge ruleSetChanged)
open Work

variable {α β : Type} {id : Int}

/-! ## Steady requests -/

theorem isSteady_log {event : Journal.Event} : (log event).run.IsSteady :=
  .left rfl fun _ ↦ .right rfl fun _ ↦ .done rfl

theorem isSteady_store (op : Store.Operation) : (store op).run.IsSteady :=
  .both rfl fun _ ↦ .done rfl

theorem isSteady_ofStore {result : Except Store.Failure α} : (ofStore result).run.IsSteady :=
  .done rfl

theorem Rules.isSteady_check (gate : Expression.Gate) (draft : Rule.Draft) :
    (Rules.check gate draft).run.IsSteady :=
  .done rfl

theorem Rules.isSteady_get (id : Int) : (Rules.get id).run.IsSteady := by
  refine (isSteady_store _).run_bind fun found ↦ ?_
  cases found with
  | some rule => exact .run_pure
  | none => exact .run_throw

theorem Analyses.isSteady_get (id : Int) : (Analyses.get id).run.IsSteady := by
  refine (isSteady_store _).run_bind fun found ↦ ?_
  cases found with
  | some analysis => exact .run_pure
  | none => exact .run_throw

theorem Analyses.isSteady_delete (id : Int) : (Analyses.delete id).run.IsSteady :=
  (isSteady_store _).run_bind fun _ ↦ isSteady_ofStore.run_bind fun _ ↦ isSteady_log

/-! ## Requests to the detector -/

/-- Between a request to the detector and its result nothing is done with the store. -/
theorem detached_query (q : Detector.Query α) : (query q).run.Detached fun _ ↦ True :=
  ⟨rfl, fun _ ↦ ⟨rfl, fun _ ↦ trivial⟩⟩

theorem Analyses.coupled_rawData (id : Int) :
    Coupled (fun _ _ ↦ True) (Analyses.rawData id).run (Analyses.rawData id).run := by
  refine (Analyses.isSteady_get id).run_bind_coupled (fun _ ↦ trivial) fun analysis ↦ ?_
  refine (isSteady_store _).run_bind_coupled (fun _ ↦ trivial) fun found ↦ ?_
  cases found with
  | none => exact .done trivial
  | some rule =>
    refine isSteady_log.run_bind_coupled (fun _ ↦ trivial) fun _ ↦ ?_
    exact ((detached_query _).coupled (detached_query _)).mono fun _ _ _ ↦ trivial

/-! ## Changes of rules -/

/-- Two results are the same, or both are of one change that has been kept, and differ at most in
what the detector has made of it. The change has an id. -/
def Concur (idOf : α → Int) (result result' : Except Failure α) : Prop :=
  result = result' ∨
    ∃ a answer answer',
      result = announced (idOf a) answer a ∧ result' = announced (idOf a) answer' a

theorem Concur.refl {idOf : α → Int} (result : Except Failure α) : Concur idOf result result :=
  .inl rfl

/-- Failures that have nothing to do with the detector concur with themselves. -/
theorem Concur.error {idOf : α → Int} (failure : Failure) :
    Concur idOf (.error failure) (.error failure) :=
  .refl _

theorem Concur.map {idOf : α → Int} {idOf' : β → Int} {result result' : Except Failure α}
    (h : Concur idOf result result') {f : α → β} (hid : ∀ a, idOf' (f a) = idOf a) :
    Concur idOf' (f <$> result) (f <$> result') := by
  obtain rfl | ⟨a, answer, answer', rfl, rfl⟩ := h
  · exact .refl _
  · rw [map_announced, map_announced, ← hid]
    exact .inr ⟨f a, answer, answer', rfl, rfl⟩

namespace Rules

/-- An announcement ends as the detector answers. -/
theorem detached_announce (id : Int) :
    (announce id).run.Detached fun result ↦ ∃ answer, result = announced id answer () := by
  rw [run_announce]
  refine ⟨rfl, fun _ ↦ ⟨rfl, fun answer ↦ ?_⟩⟩
  cases hanswer : acknowledge ruleSetChanged answer with
  | ok data =>
    simp only [hanswer, detached_done]
    exact ⟨answer, by rw [announced, hanswer]⟩
  | error failure =>
    simp only [hanswer, detached_step, detached_done]
    exact ⟨rfl, fun _ ↦ ⟨answer, by rw [announced, hanswer]⟩⟩

theorem coupled_announce (id : Int) :
    Coupled (Concur fun _ ↦ id) (announce id).run (announce id).run := by
  refine ((detached_announce id).coupled (detached_announce id)).mono ?_
  rintro _ _ ⟨⟨answer, rfl⟩, answer', rfl⟩
  exact .inr ⟨(), answer, answer', rfl, rfl⟩

/-- What is left to do once a change of a rule has been kept. -/
theorem coupled_announce_kept (event : Journal.Event) {idOf : α → Int} (a : α) :
    Coupled (Concur idOf) (do log event; announce (idOf a); return a : Attempt α).run
      (do log event; announce (idOf a); return a : Attempt α).run := by
  refine isSteady_log.run_bind_coupled .error fun _ ↦ ?_
  exact (coupled_announce (idOf a)).map (f := fun _ ↦ a) fun result result' h ↦ h.map fun _ ↦ rfl

theorem coupled_create (gate : Expression.Gate) (draft : Rule.Draft) :
    Coupled (Concur Rule.id) (create gate draft).run (create gate draft).run := by
  refine (isSteady_check gate _).run_bind_coupled .error fun _ ↦ ?_
  refine (isSteady_store _).run_bind_coupled .error fun result ↦ ?_
  exact isSteady_ofStore.run_bind_coupled .error fun rule ↦ coupled_announce_kept _ rule

theorem coupled_update (gate : Expression.Gate) (id : Int) (changes : Rule.Changes) :
    Coupled (Concur Rule.id) (update gate id changes).run (update gate id changes).run := by
  refine (isSteady_get id).run_bind_coupled .error fun current ↦ ?_
  refine (isSteady_check gate _).run_bind_coupled .error fun _ ↦ ?_
  refine (isSteady_store _).run_bind_coupled .error fun result ↦ ?_
  exact isSteady_ofStore.run_bind_coupled .error fun rule ↦ coupled_announce_kept _ rule

theorem coupled_delete (id : Int) :
    Coupled (Concur fun _ ↦ id) (delete id).run (delete id).run := by
  refine (isSteady_store _).run_bind_coupled .error fun result ↦ ?_
  refine isSteady_ofStore.run_bind_coupled .error fun _ ↦ ?_
  exact isSteady_log.run_bind_coupled .error fun _ ↦ coupled_announce id

end Rules

end RuleWatch.Service
