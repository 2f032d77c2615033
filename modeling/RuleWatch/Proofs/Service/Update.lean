import RuleWatch.Proofs.Service.Mutation

/-!
# A change of a rule, step by step

A change reads the rule, writes the parts that it names as they are in what it has made of the rule
and checked, and tells the detector. What it has read, and what came back from its write and from
the detector, decides how it ends.
-/

namespace RuleWatch

/-- A row has been changed. -/
def hasChanged (deeds : List Deed) : Bool :=
  deeds.any fun d ↦ d.changed?.isSome

theorem hasChanged_of_mem {deeds : List Deed} {d : Deed} (h : d ∈ deeds) (hd : d.changed?.isSome) :
    hasChanged deeds :=
  List.any_eq_true.mpr ⟨d, h, hd⟩

@[simp] theorem hasChanged_nil : hasChanged [] = false := rfl

@[simp] theorem hasChanged_append_singleton {deeds : List Deed} {d : Deed} :
    hasChanged (deeds ++ [d]) = (hasChanged deeds || d.changed?.isSome) := by
  simp [hasChanged]

/-- Why a request was refused, judging by its result. A change that was kept without the detector
knowing it was not refused. -/
def Service.refusal? {α : Type} : Except Failure α → Option Failure
  | .ok _ | .error (.unannounced ..) => none
  | .error failure => some failure

namespace Service

variable {α : Type}

theorem refusal?_announced {id : Int} {answer : Option Bytes} {a : α} :
    refusal? (announced id answer a) = none := by
  rw [announced]
  cases Detector.acknowledge Detector.ruleSetChanged answer <;> rfl

theorem refusal?_ofStore {failure : Store.Failure} :
    refusal? (.error (.ofStore failure) : Except Failure α) = some (.ofStore failure) := by
  cases failure <;> rfl

theorem eq_of_refusal? {result : Except Failure α} {failure : Failure}
    (h : refusal? result = some failure) : result = .error failure := by
  cases result with
  | ok a => contradiction
  | error failure' =>
    cases failure' with
    | unannounced => contradiction
    | _ => exact congrArg _ (Option.some.inj h)

end Service

namespace Service.Rules

open Detector (ruleSetChanged)
open Work

variable {α : Type} {gate : Expression.Gate} {id : Int} {changes : Rule.Changes} {deeds : List Deed}

/-- The conduct of a change of a rule. -/
def MayUpdate (gate : Expression.Gate) (id : Int) (changes : Rule.Changes) (deeds : List Deed) :
    Step → Prop
  | .store (.findRule target) => target = id ∧ deeds = []
  | .store (.updateRule target changes' draft) => target = id ∧ changes' = changes ∧
    ∃ row : Rule, deeds = [⟨.store (.findRule id), some row⟩] ∧ draft = row.merged changes ∧
      draft.checkBy gate = .ok ()
  | .store _ => False
  | .ask call => call = ruleSetChanged
  | _ => True

/-- How a change of a rule ends. -/
inductive UpdateEnds (gate : Expression.Gate) (id : Int) (changes : Rule.Changes)
    (deeds : List Deed) : Except Failure Rule → Prop
  | missed (hread : ⟨.store (.findRule id), none⟩ ∈ deeds) :
    UpdateEnds gate id changes deeds (.error (.notFound .rule id))
  | invalid {row : Rule} {reason : Rule.Invalid}
    (hread : ⟨.store (.findRule id), some row⟩ ∈ deeds) (hquiet : hasChanged deeds = false)
    (hcheck : (row.merged changes).checkBy gate = .error reason) :
    UpdateEnds gate id changes deeds (.error (.invalidRule reason))
  | refused {draft : Rule.Draft} {failure : Store.Failure}
    (hwrite : ⟨.store (.updateRule id changes draft), .error failure⟩ ∈ deeds)
    (hquiet : hasChanged deeds = false) :
    UpdateEnds gate id changes deeds (.error (.ofStore failure))
  | kept {draft : Rule.Draft} {rule : Rule} {answer : Option Bytes}
    (hwrite : ⟨.store (.updateRule id changes draft), .ok rule⟩ ∈ deeds)
    (htold : ⟨.ask ruleSetChanged, answer⟩ ∈ deeds) :
    UpdateEnds gate id changes deeds (announced id answer rule)

/-- What is left to do once the change has been kept. -/
theorem keeps_update_kept {draft : Rule.Draft} {rule : Rule} {event : Journal.Event}
    (hwrite : ⟨.store (.updateRule id changes draft), .ok rule⟩ ∈ deeds) :
    Keeps (MayUpdate gate id changes) (UpdateEnds gate id changes) deeds
      (do log event; announce id; return rule : Attempt Rule).run := by
  rw [run_log_bind]
  refine ⟨trivial, fun _ ↦ ?_⟩
  refine Keeps.bind (keeps_announce_of (fun _ _ ↦ trivial) fun _ ↦ rfl)
    (fun deeds' u hend ↦ ?_) (fun deeds' failure hend ↦ ?_)
  all_goals
    obtain ⟨before, answer, after, hdeeds, -, -, hresult⟩ := hend
    have hend : UpdateEnds gate id changes deeds' (announced id answer rule) :=
      .kept (hdeeds ▸ List.mem_append_left _ (List.mem_append_left _ hwrite)) (by simp [hdeeds])
    rwa [announced_eq_map, ← hresult] at hend

/-- Every change keeps to its conduct, up to its end. -/
theorem keeps_update_ends (gate : Expression.Gate) (id : Int) (changes : Rule.Changes) :
    Keeps (MayUpdate gate id changes) (UpdateEnds gate id changes) []
      (update gate id changes).run := by
  unfold update
  rw [run_get_bind, keeps_step]
  refine ⟨⟨rfl, rfl⟩, fun world ↦ ?_⟩
  cases (world.perform (.store (.findRule id))).1 with
  | none => exact .missed (by simp)
  | some row =>
    cases hcheck : (row.merged changes).checkBy gate with
    | error reason =>
      simp only [check_bind_of_error hcheck]
      exact .invalid (by simp) rfl hcheck
    | ok _ =>
      simp only [check_bind_of_ok hcheck]
      refine ⟨⟨rfl, rfl, row, rfl, rfl, hcheck⟩, fun world ↦ ?_⟩
      let write : Store.Operation := .updateRule id changes (row.merged changes)
      cases hanswer : (world.perform (.store write)).1 with
      | error failure =>
        exact .refused (List.mem_append_right _ (List.mem_singleton_self _)) rfl
      | ok rule =>
        obtain rfl : rule.id = id := Store.id_of_updateRule hanswer
        exact keeps_update_kept (List.mem_append_right _ (List.mem_singleton_self _))

end Service.Rules

end RuleWatch
