import RuleWatch.Proofs.Store.Table
import RuleWatch.Work.Step

/-!
# What an operation can do

An operation is refused, and then the store stays as it is, or it changes the one row that its
answer tells. The `_cases` lemmas say for each operation when it is which.
-/

namespace RuleWatch.Store

open Listing

variable {store : Store} {id now : Int}

theorem isFree_iff {rules : List Rule} {name : String} :
    isFree rules name id ↔ ∀ rule ∈ rules, rule.id ≠ id → rule.name ≠ name := by
  simp [isFree, or_iff_not_imp_left]

/-- A new rule is kept under the next id unless its name is taken. -/
theorem insertRule_cases (store : Store) (draft : Rule.Draft) (now : Int) :
    (¬ isFree store.rules.rows draft.name store.rules.nextId ∧
      store.insertRule draft now = (.error nameTaken, store)) ∨
    (isFree store.rules.rows draft.name store.rules.nextId ∧
      ∃ rule : Rule, rule.toDraft = storedDraft draft ∧ rule.id = store.rules.nextId ∧
        rule.createdAt = now ∧ rule.updatedAt = now ∧
        store.insertRule draft now =
          (.ok rule, { store with rules := store.rules.push rule })) := by
  unfold insertRule
  by_cases hfree : isFree store.rules.rows draft.name store.rules.nextId
  · exact .inr ⟨hfree, _, rfl, rfl, rfl, rfl, if_pos hfree⟩
  · exact .inl ⟨hfree, if_neg hfree⟩

/-- A change needs a rule with the id, and that no other rule has the name written. -/
theorem updateRule_cases (store : Store) (id : Int) (changes : Rule.Changes) (draft : Rule.Draft)
    (now : Int) :
    (store.findRule id = none ∧
      store.updateRule id changes draft now = (.error (.notFound .rule id), store)) ∨
    ∃ rule written : Rule, store.findRule id = some rule ∧
      written = writeParts rule changes (storedDraft draft) now ∧
      ((¬ isFree store.rules.rows written.name id ∧
          store.updateRule id changes draft now = (.error nameTaken, store)) ∨
        (isFree store.rules.rows written.name id ∧
          store.updateRule id changes draft now =
            (.ok written, { store with rules := store.rules.replace RuleField written }))) := by
  unfold updateRule
  cases hfound : store.findRule id with
  | none => exact .inl ⟨rfl, rfl⟩
  | some rule =>
    refine .inr ⟨rule, _, rfl, rfl, ?_⟩
    by_cases hfree : isFree store.rules.rows
        (writeParts rule changes (storedDraft draft) now).name id
    · exact .inr ⟨hfree, if_pos hfree⟩
    · exact .inl ⟨hfree, if_neg hfree⟩

/-- A deletion needs a rule with the id. -/
theorem deleteRule_cases (store : Store) (id : Int) :
    (store.findRule id = none ∧ store.deleteRule id = (.error (.notFound .rule id), store)) ∨
    ((store.findRule id).isSome ∧
      store.deleteRule id = (.ok (), { store with rules := store.rules.erase RuleField id })) := by
  unfold deleteRule
  cases store.findRule id with
  | none => exact .inl ⟨rfl, rfl⟩
  | some rule => exact .inr ⟨rfl, rfl⟩

/-- A deletion needs an analysis result with the id. -/
theorem deleteAnalysis_cases (store : Store) (id : Int) :
    (store.findAnalysis id = none ∧
      store.deleteAnalysis id = (.error (.notFound .analysis id), store)) ∨
    ((store.findAnalysis id).isSome ∧ store.deleteAnalysis id =
      (.ok (), { store with analyses := store.analyses.erase AnalysisField id })) := by
  unfold deleteAnalysis
  cases store.findAnalysis id with
  | none => exact .inl ⟨rfl, rfl⟩
  | some analysis => exact .inr ⟨rfl, rfl⟩

/-- Deleting an analysis result leaves the rules alone. -/
theorem deleteAnalysis_rules (store : Store) (id : Int) :
    (store.deleteAnalysis id).2.rules = store.rules := by
  unfold deleteAnalysis
  cases store.findAnalysis id <;> rfl

theorem id_of_findRule {rule : Rule} (h : store.findRule id = some rule) : rule.id = id :=
  Table.id_of_find? h

theorem mem_of_findRule {rule : Rule} (h : store.findRule id = some rule) :
    rule ∈ store.rules.rows :=
  Table.mem_of_find? h

/-- After a deletion, the rules are those with other ids. -/
theorem mem_deleteRule {rule : Rule} (h : rule ∈ (store.deleteRule id).2.rules.rows) :
    rule ∈ store.rules.rows ∧ rule.id ≠ id := by
  obtain ⟨hnone, heq⟩ | ⟨-, heq⟩ := deleteRule_cases store id <;> rw [heq] at h
  · exact ⟨h, Table.find?_eq_none_iff.mp hnone rule h⟩
  · exact Table.mem_erase.mp h

/-- A rule keeps its id when it is changed. -/
theorem id_of_updateRule {changes : Rule.Changes} {draft : Rule.Draft} {written : Rule}
    (h : (store.updateRule id changes draft now).1 = .ok written) : written.id = id := by
  obtain ⟨-, heq⟩ | ⟨rule, written', hfound, hwritten, ⟨-, heq⟩ | ⟨-, heq⟩⟩ :=
    updateRule_cases store id changes draft now <;> rw [heq] at h
  · contradiction
  · contradiction
  · cases h
    calc written.id = rule.id := by rw [hwritten]; rfl
      _ = id := id_of_findRule hfound

/-! ## Changes -/

/-- The row that an operation has changed, judging by its answer. -/
def Operation.changed? : (op : Operation) → op.Answer → Option (Entity × Int)
  | .insertRule _, .ok rule => some (.rule, rule.id)
  | .updateRule id _ _, .ok _ => some (.rule, id)
  | .deleteRule id, .ok _ => some (.rule, id)
  | .deleteAnalysis id, .ok _ => some (.analysis, id)
  | _, _ => none

/-- A refused operation changes nothing, and neither does one that only looks. -/
theorem perform_of_changed?_eq_none {op : Operation}
    (h : op.changed? (store.perform now op).1 = none) : (store.perform now op).2 = store := by
  cases op with
  | insertRule draft =>
    obtain ⟨-, heq⟩ | ⟨-, rule, -, -, -, -, heq⟩ := insertRule_cases store draft now
    · simp only [perform, heq]
    · simp [perform, heq, Operation.changed?] at h
  | updateRule id changes draft =>
    obtain ⟨-, heq⟩ | ⟨rule, written, -, -, ⟨-, heq⟩ | ⟨-, heq⟩⟩ :=
      updateRule_cases store id changes draft now
    · simp only [perform, heq]
    · simp only [perform, heq]
    · simp [perform, heq, Operation.changed?] at h
  | deleteRule id =>
    obtain ⟨-, heq⟩ | ⟨-, heq⟩ := deleteRule_cases store id
    · simp only [perform, heq]
    · simp [perform, heq, Operation.changed?] at h
  | deleteAnalysis id =>
    obtain ⟨-, heq⟩ | ⟨-, heq⟩ := deleteAnalysis_cases store id
    · simp only [perform, heq]
    · simp [perform, heq, Operation.changed?] at h
  | _ => rfl

end RuleWatch.Store
