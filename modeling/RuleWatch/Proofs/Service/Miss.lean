import RuleWatch.Proofs.Service.Mutation
import RuleWatch.Proofs.Store.Gone

/-!
# Rules that are not there

What the service does when it comes to a rule that is not there: it stops, says that the rule was
not found, and has not called the detector, nor does it.
-/

namespace RuleWatch

/-- The rule that a step is about, if it has to be there. -/
def Step.rule? : Step → Option Int
  | .store op => op.rule?
  | _ => none

namespace Deed

/-- The deed was done for a rule that was not there. -/
def Misses (id : Int) : Deed → Prop
  | ⟨.store op, answer⟩ => op.Misses id answer
  | _ => False

variable {d : Deed} {id id' : Int}

theorem Misses.rule?_eq (h : d.Misses id) : d.step.rule? = some id := by
  obtain ⟨s, answer⟩ := d
  cases s with
  | store op => exact Store.Operation.Misses.rule?_eq h
  | _ => exact h.elim

theorem Misses.id_eq (h : d.Misses id) (h' : d.Misses id') : id = id' :=
  Option.some.inj (h.rule?_eq.symm.trans h'.rule?_eq)

end Deed

namespace Work

variable {α β : Type} {called : Bool} {deeds : List Deed}

/-- When a rule is missed the work ends with a failure that says so, and no rule is looked for once
the detector has been called. The detector may have been called before the work begins. -/
def StopsAtMiss (called : Bool) : Work (Except Failure α) → Prop
  | .done _ => True
  | .step s next => ∀ answer,
    (∀ id, (⟨s, answer⟩ : Deed).Misses id →
      called = false ∧ next answer = .done (.error (.notFound .rule id))) ∧
    (next answer).StopsAtMiss (called || s.call?.isSome)

/-- A miss is reported, and the detector has not been called. -/
def ReportsMiss (deeds : List Deed) (result : Except Failure α) : Prop :=
  ∀ d ∈ deeds, ∀ id, d.Misses id →
    result = .error (.notFound .rule id) ∧ ∀ d ∈ deeds, d.step.call? = none

/-- Work that stops when a rule is missed reports it. -/
theorem StopsAtMiss.keeps {work : Work (Except Failure α)} (h : work.StopsAtMiss called)
    (hfound : ∀ d ∈ deeds, ∀ id, ¬ d.Misses id)
    (hcalled : called = false → ∀ d ∈ deeds, d.step.call? = none) :
    work.Keeps (fun _ _ ↦ True) ReportsMiss deeds := by
  induction work generalizing called deeds with
  | done result => exact fun d hd id hmiss ↦ absurd hmiss (hfound d hd id)
  | step s next ih =>
    refine ⟨trivial, fun world ↦ ?_⟩
    generalize (world.perform s).1 = answer
    obtain ⟨hstop, hnext⟩ := h answer
    by_cases hmiss : ∃ id, (⟨s, answer⟩ : Deed).Misses id
    · obtain ⟨id, hid⟩ := hmiss
      obtain ⟨rfl, hdone⟩ := hstop id hid
      rw [hdone, keeps_done]
      intro d hd id' hid'
      rcases List.mem_append.mp hd with hold | hnew
      · exact absurd hid' (hfound d hold id')
      · rw [List.mem_singleton.mp hnew] at hid'
        rw [hid.id_eq hid']
        refine ⟨rfl, fun d hd ↦ ?_⟩
        rcases List.mem_append.mp hd with hold | hnew
        · exact hcalled rfl d hold
        · rw [List.mem_singleton.mp hnew]
          cases s with
          | ask call => exact hid.elim
          | _ => rfl
    · refine ih answer hnext (fun d hd id hid ↦ ?_) fun hnone d hd ↦ ?_
      · rcases List.mem_append.mp hd with hold | hnew
        · exact hfound d hold id hid
        · rw [List.mem_singleton.mp hnew] at hid
          exact hmiss ⟨id, hid⟩
      · rw [Bool.or_eq_false_iff] at hnone
        rcases List.mem_append.mp hd with hold | hnew
        · exact hcalled hnone.1 d hold
        · rw [List.mem_singleton.mp hnew]
          exact Option.not_isSome_iff_eq_none.mp (by simp [hnone.2])

/-- What is made of a result does not matter. -/
theorem StopsAtMiss.map {attempt : Attempt α} (h : attempt.run.StopsAtMiss called) (f : α → β) :
    (f <$> attempt).run.StopsAtMiss called := by
  change (attempt.run >>= _ : Work (Except Failure β)).StopsAtMiss called
  generalize attempt.run = work at h
  induction work generalizing called with
  | done result => cases result <;> trivial
  | step s next ih =>
    intro answer
    obtain ⟨hstop, hnext⟩ := h answer
    refine ⟨fun id hid ↦ ?_, ih answer hnext⟩
    obtain ⟨hcalled, hdone⟩ := hstop id hid
    refine ⟨hcalled, ?_⟩
    change next answer >>= _ = _
    rw [hdone]
    rfl

end Work

namespace Service

open Work

variable {α β : Type} {called : Bool} {id : Int}

theorem stopsAtMiss_log_bind {event : Journal.Event} {f : Unit → Attempt β}
    (h : (f ()).run.StopsAtMiss called) : (log event >>= f).run.StopsAtMiss called := by
  rw [run_log_bind]
  intro _
  exact ⟨fun _ hmiss ↦ hmiss.elim, by simpa [Step.call?] using h⟩

/-- An operation that misses a rule has to be followed by the failure. -/
theorem stopsAtMiss_store_bind {op : Store.Operation} {f : op.Answer → Attempt β}
    (hmiss : ∀ answer id, op.Misses id answer →
      called = false ∧ (f answer).run = .done (.error (.notFound .rule id)))
    (h : ∀ answer, (f answer).run.StopsAtMiss called) :
    (store op >>= f).run.StopsAtMiss called := by
  rw [run_store_bind]
  intro answer
  exact ⟨fun id hid ↦ hmiss answer id hid, by simpa [Step.call?] using h answer⟩

/-- An operation that is about no rule that has to be there misses none. -/
theorem stopsAtMiss_store_bind_of_rule? {op : Store.Operation} {f : op.Answer → Attempt β}
    (hop : op.rule? = none) (h : ∀ answer, (f answer).run.StopsAtMiss called) :
    (store op >>= f).run.StopsAtMiss called := by
  refine stopsAtMiss_store_bind (fun answer id hid ↦ ?_) h
  rw [hid.rule?_eq] at hop
  contradiction

theorem stopsAtMiss_ofStore_bind {result : Except Store.Failure α} {f : α → Attempt β}
    (h : ∀ a, (f a).run.StopsAtMiss called) : (ofStore result >>= f).run.StopsAtMiss called := by
  cases result with
  | ok a => exact h a
  | error failure => trivial

theorem stopsAtMiss_query (q : Detector.Query α) : (query q).run.StopsAtMiss called := by
  intro _
  refine ⟨fun _ hmiss ↦ hmiss.elim, fun answer ↦ ⟨fun _ hmiss ↦ hmiss.elim, ?_⟩⟩
  trivial

namespace Rules

variable {gate : Expression.Gate}

theorem stopsAtMiss_announce : (announce id).run.StopsAtMiss called := by
  rw [run_announce]
  refine fun _ ↦ ⟨fun _ hmiss ↦ hmiss.elim, fun answer ↦ ⟨fun _ hmiss ↦ hmiss.elim, ?_⟩⟩
  cases hanswer : Detector.acknowledge Detector.ruleSetChanged answer with
  | ok data =>
    simp only [hanswer]
    trivial
  | error failure =>
    simp only [hanswer]
    exact fun _ ↦ ⟨fun _ hmiss ↦ hmiss.elim, trivial⟩

theorem stopsAtMiss_announce_map (a : α) :
    (do announce id; return a : Attempt α).run.StopsAtMiss called :=
  stopsAtMiss_announce.map fun _ ↦ a

theorem stopsAtMiss_get : (get id).run.StopsAtMiss false := by
  refine stopsAtMiss_store_bind (fun answer target hmiss ↦ ?_) fun answer ↦ ?_
  · obtain ⟨rfl, rfl⟩ := hmiss
    exact ⟨rfl, rfl⟩
  · cases answer <;> trivial

theorem stopsAtMiss_create {draft : Rule.Draft} : (create gate draft).run.StopsAtMiss called := by
  unfold create
  cases hcheck : draft.normalize.checkBy gate with
  | error reason =>
    rw [check_bind_of_error hcheck]
    trivial
  | ok _ =>
    rw [check_bind_of_ok hcheck]
    refine stopsAtMiss_store_bind_of_rule? rfl fun answer ↦ stopsAtMiss_ofStore_bind fun rule ↦ ?_
    exact stopsAtMiss_log_bind (stopsAtMiss_announce_map rule)

theorem stopsAtMiss_update {changes : Rule.Changes} :
    (update gate id changes).run.StopsAtMiss false := by
  unfold update
  rw [run_get_bind]
  intro answer
  cases answer with
  | none =>
    refine ⟨fun target hmiss ↦ ?_, trivial⟩
    rw [hmiss.1]
    exact ⟨rfl, rfl⟩
  | some row =>
    refine ⟨fun target hmiss ↦ absurd hmiss.2 (by simp), ?_⟩
    cases hcheck : (row.merged changes).checkBy gate with
    | error reason =>
      simp only [check_bind_of_error hcheck]
      trivial
    | ok _ =>
      simp only [check_bind_of_ok hcheck]
      refine stopsAtMiss_store_bind (fun answer target hmiss ↦ ?_) fun answer ↦ ?_
      · rw [hmiss.2]
        exact ⟨rfl, rfl⟩
      · exact stopsAtMiss_ofStore_bind fun rule ↦
          stopsAtMiss_log_bind (stopsAtMiss_announce_map rule)

theorem stopsAtMiss_delete : (delete id).run.StopsAtMiss false := by
  refine stopsAtMiss_store_bind (fun answer target hmiss ↦ ?_) fun answer ↦ ?_
  · rw [hmiss.2]
    exact ⟨rfl, rfl⟩
  · exact stopsAtMiss_ofStore_bind fun _ ↦ stopsAtMiss_log_bind stopsAtMiss_announce

end Rules

namespace Analyses

theorem stopsAtMiss_get : (get id).run.StopsAtMiss called := by
  refine stopsAtMiss_store_bind_of_rule? rfl fun answer ↦ ?_
  cases answer <;> trivial

theorem stopsAtMiss_delete : (delete id).run.StopsAtMiss called := by
  refine stopsAtMiss_store_bind_of_rule? rfl fun answer ↦ stopsAtMiss_ofStore_bind fun _ ↦ ?_
  exact fun _ ↦ ⟨fun _ hmiss ↦ hmiss.elim, trivial⟩

/-- The rule of an analysis result is looked for before the detector is asked for its metrics. -/
theorem stopsAtMiss_rawData : (rawData id).run.StopsAtMiss false := by
  unfold rawData
  intro answer
  refine ⟨fun target hmiss ↦ hmiss.elim, ?_⟩
  cases answer with
  | none => trivial
  | some analysis =>
    intro answer
    cases answer with
    | none =>
      refine ⟨fun target hmiss ↦ ?_, trivial⟩
      rw [← hmiss.1]
      exact ⟨rfl, rfl⟩
    | some rule =>
      refine ⟨fun target hmiss ↦ absurd hmiss.2 (by simp), ?_⟩
      exact stopsAtMiss_log_bind (stopsAtMiss_query _)

end Analyses

end Service

end RuleWatch
