import RuleWatch.Proofs.Detector.FailureClass
import RuleWatch.Proofs.Service.Coupled
import RuleWatch.Proofs.Work.Concord

/-!
# The service under two failing detectors

When the detector fails in the same way in two runs of a request, the service ends alike in both: in
the same result, or in failures that are the same but for what the detector has said
(`Failure.hushed`).
-/

namespace RuleWatch

open Detector (FailureClass IsUnavailable acknowledge isDue ruleSetChanged)
open Service
open Work

variable {α β : Type}

/-! ## What the detector has said -/

/-- The failure without what the detector has said. -/
def Failure.hushed : Failure → Failure
  | .unavailable _ => .unavailable .noAnswer
  | .undecodable _ => .undecodable .noAnswer
  | .unannounced ruleId _ => .unannounced ruleId .noAnswer
  | failure => failure

/-- The results are the same but for what the detector has said. -/
def SameHushed (result result' : Except Failure α) : Prop :=
  result.mapError Failure.hushed = result'.mapError Failure.hushed

theorem SameHushed.refl (result : Except Failure α) : SameHushed result result := rfl

theorem SameHushed.error {failure failure' : Failure} (h : failure.hushed = failure'.hushed) :
    SameHushed (.error failure : Except Failure α) (.error failure') :=
  congrArg Except.error h

theorem SameHushed.map {result result' : Except Failure α} (h : SameHushed result result')
    (f : α → β) : SameHushed (f <$> result) (f <$> result') := by
  have hmap : ∀ result : Except Failure α,
      (f <$> result).mapError Failure.hushed = f <$> result.mapError Failure.hushed := by
    intro result
    cases result <;> rfl
  rw [SameHushed, hmap, hmap, h]

/-- Failures of the detector that are of one class are the same but for what it has said. -/
theorem Failure.hushed_ofDetector {failure failure' : Detector.Failure}
    (h : failure.isUndecodable = failure'.isUndecodable) :
    (ofDetector failure).hushed = (ofDetector failure').hushed := by
  unfold ofDetector
  rw [h]
  cases failure'.isUndecodable <;> rfl

/-! ## Requests to the detector -/

namespace Service

variable {c : FailureClass} {q : Detector.Query α}

theorem concords_query (hq : q.ReadsDue) :
    Concords c.Covers SameHushed (query q).run (query q).run := by
  refine concords_log (concords_ask fun answer answer' h h' ↦ concords_done ?_)
  obtain ⟨failure, hread, hfailure⟩ := h.exists_read hq
  obtain ⟨failure', hread', hfailure'⟩ := h'.exists_read hq
  rw [hread, hread']
  exact .error (Failure.hushed_ofDetector (hfailure.trans hfailure'.symm))

theorem Analyses.concords_rawData (id : Int) :
    Concords c.Covers SameHushed (Analyses.rawData id).run (Analyses.rawData id).run := by
  refine (Analyses.isSteady_get id).run_bind_concords (fun _ ↦ .refl _) fun analysis ↦ ?_
  refine (isSteady_store _).run_bind_concords (fun _ ↦ .refl _) fun found ↦ ?_
  cases found with
  | none => exact concords_done (.refl _)
  | some rule =>
    exact isSteady_log.run_bind_concords (fun _ ↦ .refl _) fun _ ↦ concords_query fun _ ↦ rfl

/-! ## Changes of rules -/

namespace Rules

/-- A notification is not acknowledged in either run. -/
theorem concords_announce (id : Int) :
    Concords c.Covers SameHushed (announce id).run (announce id).run := by
  rw [run_announce]
  refine concords_log (concords_ask fun answer answer' h h' ↦ ?_)
  cases c with
  | unavailable =>
    obtain ⟨failure, hanswer, -⟩ := IsUnavailable.exists_acknowledge h ruleSetChanged
    obtain ⟨failure', hanswer', -⟩ := IsUnavailable.exists_acknowledge h' ruleSetChanged
    rw [hanswer, hanswer']
    exact concords_log (concords_done (.error rfl))
  | undecodable =>
    -- no data are due, so there are none that are undecodable
    obtain ⟨_, _, _, _, _, hdue⟩ := h
    contradiction

/-- What is left to do once a change of a rule has been kept. -/
theorem concords_announce_kept (event : Journal.Event) (id : Int) (a : α) :
    Concords c.Covers SameHushed (do log event; announce id; return a : Attempt α).run
      (do log event; announce id; return a : Attempt α).run := by
  refine isSteady_log.run_bind_concords (fun _ ↦ .refl _) fun _ ↦ ?_
  exact (concords_announce id).map (f := fun _ ↦ a) fun result result' h ↦ h.map fun _ ↦ a

theorem concords_create (gate : Expression.Gate) (draft : Rule.Draft) :
    Concords c.Covers SameHushed (create gate draft).run (create gate draft).run := by
  refine (isSteady_check gate _).run_bind_concords (fun _ ↦ .refl _) fun _ ↦ ?_
  refine (isSteady_store _).run_bind_concords (fun _ ↦ .refl _) fun result ↦ ?_
  exact isSteady_ofStore.run_bind_concords (fun _ ↦ .refl _) fun rule ↦
    concords_announce_kept _ _ rule

theorem concords_update (gate : Expression.Gate) (id : Int) (changes : Rule.Changes) :
    Concords c.Covers SameHushed (update gate id changes).run (update gate id changes).run := by
  refine (isSteady_get id).run_bind_concords (fun _ ↦ .refl _) fun current ↦ ?_
  refine (isSteady_check gate _).run_bind_concords (fun _ ↦ .refl _) fun _ ↦ ?_
  refine (isSteady_store _).run_bind_concords (fun _ ↦ .refl _) fun result ↦ ?_
  exact isSteady_ofStore.run_bind_concords (fun _ ↦ .refl _) fun rule ↦
    concords_announce_kept _ _ rule

theorem concords_delete (id : Int) :
    Concords c.Covers SameHushed (delete id).run (delete id).run := by
  refine (isSteady_store _).run_bind_concords (fun _ ↦ .refl _) fun result ↦ ?_
  refine isSteady_ofStore.run_bind_concords (fun _ ↦ .refl _) fun _ ↦ ?_
  exact isSteady_log.run_bind_concords (fun _ ↦ .refl _) fun _ ↦ concords_announce id

end Rules

end Service

end RuleWatch
