import RuleWatch.Proofs.Service.Mutation

/-!
# Requests without interruption

What comes of a request that is served in one go: its result, and the store that it leaves. Nothing
else of the world that it leaves matters to the requests after it but the detector, and that may
answer as it likes.
-/

namespace RuleWatch

open Service (announced)

variable {α : Type}

namespace Service

open Listing
open Store (isFree nameTaken storedDraft writeParts insertRule_cases updateRule_cases
  deleteRule_cases deleteAnalysis_cases)

/-- What has been announced was not refused. -/
theorem announced_ne_invalidRule {id : Int} {answer : Option Bytes} {a : α}
    {reason : Rule.Invalid} : announced id answer a ≠ .error (.invalidRule reason) := by
  rw [announced]
  cases Detector.acknowledge Detector.ruleSetChanged answer <;> simp

namespace Rules

/-- An announcement leaves the store as it is. -/
theorem exists_run_announce (id : Int) (world : World) :
    ∃ answer after, (announce id).run.run world = (announced id answer (), after) ∧
      after.store = world.store := by
  rw [run_announce]
  refine ⟨world.detector world.calls.length Detector.ruleSetChanged, ?_⟩
  simp only [announced, Work.run, World.perform]
  cases Detector.acknowledge Detector.ruleSetChanged
      (world.detector world.calls.length Detector.ruleSetChanged) with
  | ok data => exact ⟨_, rfl, rfl⟩
  | error failure => exact ⟨_, rfl, rfl⟩

/-- What is left to do once a rule has been kept leaves the store as it is. -/
theorem exists_run_announce_kept (event : Journal.Event) (id : Int) (a : α) (world : World) :
    ∃ answer after,
      (do log event; announce id; return a : Attempt α).run.run world =
        (announced id answer a, after) ∧ after.store = world.store := by
  let logged := (world.perform (.log event)).2
  obtain ⟨answer, after, hrun, hstore⟩ := exists_run_announce id logged
  refine ⟨answer, after, ?_, hstore⟩
  rw [run_log_bind]
  change (announce id >>= fun _ ↦ pure a).run.run logged = _
  rw [Work.run_bind_run, hrun, announced_eq_map id answer a]
  cases announced id answer () <;> rfl

/-- A new rule is refused by the check or for its name, or it is kept and announced. -/
theorem run_create_cases (gate : Expression.Gate) (draft : Rule.Draft) (world : World) :
    (∃ reason, draft.normalize.checkBy gate = .error reason ∧
      (create gate draft).run.run world = (.error (.invalidRule reason), world)) ∨
    (draft.normalize.checkBy gate = .ok () ∧
      ¬ isFree world.store.rules.rows draft.name world.store.rules.nextId ∧
      (create gate draft).run.run world = (.error (.ofStore nameTaken), world)) ∨
    (draft.normalize.checkBy gate = .ok () ∧
      isFree world.store.rules.rows draft.name world.store.rules.nextId ∧
      ∃ (rule : Rule) (answer : Option Bytes) (after : World),
        rule.toDraft = storedDraft draft.normalize ∧ rule.id = world.store.rules.nextId ∧
        rule.createdAt = world.clock ∧ rule.updatedAt = world.clock ∧
        (create gate draft).run.run world = (announced rule.id answer rule, after) ∧
        after.store = { world.store with rules := world.store.rules.push rule }) := by
  cases hcheck : draft.normalize.checkBy gate with
  | error reason =>
    refine .inl ⟨reason, rfl, ?_⟩
    rw [create, check_bind_of_error hcheck]
    rfl
  | ok _ =>
    refine .inr ?_
    rw [create, check_bind_of_ok hcheck, run_store_bind]
    obtain ⟨hfree, heq⟩ | ⟨hfree, rule, hrule, hid, hcreated, hupdated, heq⟩ :=
      insertRule_cases world.store draft.normalize world.clock
    · refine .inl ⟨rfl, hfree, ?_⟩
      simp only [Work.run, World.perform, Store.perform, heq, ofStore_error_bind]
      rfl
    · refine .inr ⟨rfl, hfree, rule, ?_⟩
      simp only [Work.run, World.perform, Store.perform, heq, ofStore_ok_bind]
      obtain ⟨answer, after, hrun, hstore⟩ := exists_run_announce_kept
        (.ruleCreated rule.id rule.name) rule.id rule
        { world with store := { world.store with rules := world.store.rules.push rule } }
      exact ⟨answer, after, hrule, hid, hcreated, hupdated, hrun, hstore⟩

/-- A change is refused if there is no such rule, by the check, or for the name, or it is kept and
announced. -/
theorem run_update_cases (gate : Expression.Gate) (id : Int) (changes : Rule.Changes)
    (world : World) :
    (world.store.findRule id = none ∧
      (update gate id changes).run.run world = (.error (.notFound .rule id), world)) ∨
    ∃ old : Rule, world.store.findRule id = some old ∧
      ((∃ reason, (old.merged changes).checkBy gate = .error reason ∧
        (update gate id changes).run.run world = (.error (.invalidRule reason), world)) ∨
      ∃ new : Rule, (old.merged changes).checkBy gate = .ok () ∧
        new = writeParts old changes (storedDraft (old.merged changes)) world.clock ∧
        ((¬ isFree world.store.rules.rows new.name id ∧
          (update gate id changes).run.run world = (.error (.ofStore nameTaken), world)) ∨
        (isFree world.store.rules.rows new.name id ∧
          ∃ answer after,
            (update gate id changes).run.run world = (announced new.id answer new, after) ∧
            after.store =
              { world.store with rules := world.store.rules.replace RuleField new }))) := by
  rw [update, run_get_bind]
  simp only [Work.run, World.perform, Store.perform]
  cases hfound : world.store.findRule id with
  | none => exact .inl ⟨rfl, rfl⟩
  | some old =>
    refine .inr ⟨old, rfl, ?_⟩
    cases hcheck : (old.merged changes).checkBy gate with
    | error reason =>
      simp only [check_bind_of_error hcheck]
      exact .inl ⟨reason, rfl, rfl⟩
    | ok _ =>
      refine .inr ?_
      simp only [check_bind_of_ok hcheck]
      obtain ⟨hnone, -⟩ | ⟨rule, new, hrule, hnew, hcases⟩ :=
        updateRule_cases world.store id changes (old.merged changes) world.clock
      · exact absurd hfound (by simp [hnone])
      obtain rfl : old = rule := Option.some.inj (hfound.symm.trans hrule)
      refine ⟨new, trivial, hnew, ?_⟩
      rw [run_store_bind]
      obtain ⟨hfree, heq⟩ | ⟨hfree, heq⟩ := hcases
      · refine .inl ⟨hfree, ?_⟩
        simp only [Work.run, World.perform, Store.perform, heq, ofStore_error_bind]
        rfl
      · refine .inr ⟨hfree, ?_⟩
        simp only [Work.run, World.perform, Store.perform, heq, ofStore_ok_bind]
        exact exists_run_announce_kept ..

/-- A new rule is refused as invalid just if it does not pass the check. -/
theorem create_isValid_iff (gate : Expression.Gate) (draft : Rule.Draft) (world : World) :
    (∀ reason, ((create gate draft).run.run world).1 ≠ .error (.invalidRule reason)) ↔
      draft.normalize.checkBy gate = .ok () := by
  obtain ⟨reason, hcheck, hrun⟩ | ⟨hcheck, -, hrun⟩ |
      ⟨hcheck, -, rule, answer, _, -, -, -, -, hrun, -⟩ :=
    run_create_cases gate draft world
  · exact iff_of_false (fun h ↦ h reason (by rw [hrun])) (by simp [hcheck])
  · exact iff_of_true (fun reason ↦ by simp [hrun, nameTaken, Failure.ofStore]) hcheck
  · exact iff_of_true (fun reason ↦ hrun ▸ announced_ne_invalidRule) hcheck

/-- A change of a rule is refused as invalid just if what the rule would become does not pass the
check. -/
theorem update_isValid_iff (gate : Expression.Gate) {id : Int} (changes : Rule.Changes)
    {world : World} {old : Rule} (hfound : world.store.findRule id = some old) :
    (∀ reason, ((update gate id changes).run.run world).1 ≠ .error (.invalidRule reason)) ↔
      (old.merged changes).checkBy gate = .ok () := by
  obtain ⟨hnone, -⟩ | ⟨_, hold, hcases⟩ := run_update_cases gate id changes world
  · rw [hfound] at hnone
    contradiction
  obtain rfl := Option.some.inj (hfound.symm.trans hold)
  obtain ⟨reason, hcheck, hrun⟩ | ⟨new, hcheck, -, ⟨-, hrun⟩ | ⟨-, answer, _, hrun, -⟩⟩ := hcases
  · exact iff_of_false (fun h ↦ h reason (by rw [hrun])) (by simp [hcheck])
  · exact iff_of_true (fun reason ↦ by simp [hrun, nameTaken, Failure.ofStore]) hcheck
  · exact iff_of_true (fun reason ↦ hrun ▸ announced_ne_invalidRule) hcheck

/-- A deletion is refused if there is no such rule, or it is kept and announced. -/
theorem run_delete_cases (id : Int) (world : World) :
    (world.store.findRule id = none ∧
      (delete id).run.run world = (.error (.notFound .rule id), world)) ∨
    ((world.store.findRule id).isSome ∧
      ∃ answer after, (delete id).run.run world = (announced id answer (), after) ∧
        after.store = { world.store with rules := world.store.rules.erase RuleField id }) := by
  rw [delete, run_store_bind]
  simp only [Work.run, World.perform, Store.perform]
  obtain ⟨hnone, heq⟩ | ⟨hsome, heq⟩ := deleteRule_cases world.store id
  · refine .inl ⟨hnone, ?_⟩
    simp only [heq, ofStore_error_bind]
    rfl
  · refine .inr ⟨hsome, ?_⟩
    simp only [heq, ofStore_ok_bind, run_log_bind]
    exact exists_run_announce ..

end Rules

/-- A deletion is refused if there is no such analysis result, or it is kept. -/
theorem Analyses.run_delete_cases (id : Int) (world : World) :
    (world.store.findAnalysis id = none ∧
      (delete id).run.run world = (.error (.notFound .analysis id), world)) ∨
    ((world.store.findAnalysis id).isSome ∧
      ∃ after, (delete id).run.run world = (.ok (), after) ∧
        after.store =
          { world.store with analyses := world.store.analyses.erase AnalysisField id }) := by
  rw [delete, run_store_bind]
  simp only [Work.run, World.perform, Store.perform]
  obtain ⟨hnone, heq⟩ | ⟨hsome, heq⟩ := deleteAnalysis_cases world.store id
  · refine .inl ⟨hnone, ?_⟩
    simp only [heq, ofStore_error_bind]
    rfl
  · refine .inr ⟨hsome, ?_⟩
    simp only [heq, ofStore_ok_bind]
    exact ⟨_, rfl, rfl⟩

theorem Analyses.run_rawData (id : Int) :
    (rawData id).run = .step (.store (.findAnalysis id)) fun analysis? ↦
      match analysis? with
      | none => .done (.error (.notFound .analysis id))
      | some analysis => .step (.store (.findRule analysis.ruleId)) fun rule? ↦
        match rule? with
        | none => .done (.error (.notFound .rule analysis.ruleId))
        | some rule =>
          let range := .ofEpisode analysis.createdAt analysis.updatedAt
          .step (.log (.queryingWindow id rule.id range)) fun _ ↦
            (query (.window rule.expression range)).run := by
  refine congrArg (Work.step _) (funext fun analysis? ↦ ?_)
  cases analysis? with
  | none => rfl
  | some analysis =>
    refine congrArg (Work.step _) (funext fun rule? ↦ ?_)
    cases rule? <;> rfl

/-- The metrics behind an analysis result are asked for if the result and its rule are there. -/
theorem Analyses.run_rawData_cases (id : Int) (world : World) :
    (world.store.findAnalysis id = none ∧
      (rawData id).run.run world = (.error (.notFound .analysis id), world)) ∨
    ∃ analysis : Analysis, world.store.findAnalysis id = some analysis ∧
      ((world.store.findRule analysis.ruleId = none ∧
        (rawData id).run.run world = (.error (.notFound .rule analysis.ruleId), world)) ∨
      ∃ (rule : Rule) (event : Journal.Event),
        world.store.findRule analysis.ruleId = some rule ∧
        (rawData id).run.run world =
          (query (.window rule.expression
            (.ofEpisode analysis.createdAt analysis.updatedAt))).run.run
            (world.perform (.log event)).2) := by
  rw [run_rawData]
  simp only [Work.run, World.perform, Store.perform]
  cases world.store.findAnalysis id with
  | none => exact .inl ⟨rfl, rfl⟩
  | some analysis =>
    refine .inr ⟨analysis, rfl, ?_⟩
    simp only [Work.run, World.perform, Store.perform]
    cases world.store.findRule analysis.ruleId with
    | none => exact .inl ⟨rfl, rfl⟩
    | some rule => exact .inr ⟨rule, _, rfl, rfl⟩

end Service

end RuleWatch
