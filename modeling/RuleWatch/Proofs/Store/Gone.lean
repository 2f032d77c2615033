import RuleWatch.Proofs.Store.Operation

/-!
# Rules that have gone

Ids are given in ascending order and never twice. So a rule that has been deleted has gone for good:
its id is not beyond the last one given, no rule has it, and no operation on the store changes that.
An operation on the rule answers that it is not there, and leaves the store as it is.
-/

namespace RuleWatch.Store

open Listing

variable {store : Store} {id now : Int}

/-- The id has been given to a rule, and no rule has it. -/
structure Gone (store : Store) (id : Int) : Prop where
  le_last : id ≤ store.rules.lastId
  findRule : store.findRule id = none

theorem Gone.ne_id (h : store.Gone id) {rule : Rule} (hrule : rule ∈ store.rules.rows) :
    rule.id ≠ id :=
  Table.find?_eq_none_iff.mp h.findRule rule hrule

/-- A deleted rule has gone. -/
theorem gone_of_deleteRule (h : store.rules.Keyed RuleField)
    (hdeleted : (store.deleteRule id).1 = .ok ()) : (store.deleteRule id).2.Gone id := by
  obtain ⟨-, heq⟩ | ⟨hsome, heq⟩ := deleteRule_cases store id <;> rw [heq] at hdeleted ⊢
  · contradiction
  · obtain ⟨rule, hrule⟩ := Option.isSome_iff_exists.mp hsome
    constructor
    · have hle := h.le_last rule (mem_of_findRule hrule)
      rwa [show Column.id RuleField rule = id from id_of_findRule hrule] at hle
    · exact Table.find?_erase.trans (if_pos rfl)

/-! ## Operations on one rule -/

namespace Operation

/-- The rule that the operation is about, if it is about one that has to be there. -/
def rule? : Operation → Option Int
  | .findRule id | .updateRule id _ _ | .deleteRule id => some id
  | _ => none

/-- The answer of the operation is that the rule with this id is not there. -/
def Misses (id : Int) : (op : Operation) → op.Answer → Prop
  | .findRule target, answer => target = id ∧ answer = none
  | .updateRule target _ _, answer => target = id ∧ answer = .error (.notFound .rule id)
  | .deleteRule target, answer => target = id ∧ answer = .error (.notFound .rule id)
  | _, _ => False

theorem Misses.rule?_eq {op : Operation} {answer : op.Answer} (h : op.Misses id answer) :
    op.rule? = some id := by
  cases op with
  | findRule target | updateRule target changes draft | deleteRule target => rw [rule?, h.1]
  | _ => exact h.elim

end Operation

/-- An operation on a rule that is not there says so, and changes nothing. -/
theorem misses_perform {op : Operation} (h : store.findRule id = none) (hop : op.rule? = some id) :
    op.Misses id (store.perform now op).1 ∧ (store.perform now op).2 = store := by
  cases op with
  | findRule target =>
    obtain rfl : target = id := Option.some.inj hop
    exact ⟨⟨rfl, h⟩, rfl⟩
  | updateRule target changes draft =>
    obtain rfl : target = id := Option.some.inj hop
    simp only [perform, updateRule, h, Operation.Misses, and_self]
  | deleteRule target =>
    obtain rfl : target = id := Option.some.inj hop
    simp only [perform, deleteRule, h, Operation.Misses, and_self]
  | _ => contradiction

/-! ## Any operation -/

/-- What an operation makes of the rules: nothing new, one more, one in place of another, or one
less. -/
theorem rules_perform_cases (store : Store) (now : Int) (op : Operation) :
    (store.perform now op).2.rules = store.rules ∨
    (∃ rule : Rule, rule.id = store.rules.nextId ∧
      (store.perform now op).2.rules = store.rules.push rule) ∨
    (∃ rule : Rule, (store.perform now op).2.rules = store.rules.replace RuleField rule) ∨
    ∃ id, (store.perform now op).2.rules = store.rules.erase RuleField id := by
  cases op with
  | insertRule draft =>
    obtain ⟨-, heq⟩ | ⟨-, rule, -, hid, -, -, heq⟩ := insertRule_cases store draft now
    · exact .inl (by rw [perform, heq])
    · exact .inr (.inl ⟨rule, hid, by rw [perform, heq]⟩)
  | updateRule id changes draft =>
    obtain ⟨-, heq⟩ | ⟨rule, written, -, -, ⟨-, heq⟩ | ⟨-, heq⟩⟩ :=
      updateRule_cases store id changes draft now
    · exact .inl (by rw [perform, heq])
    · exact .inl (by rw [perform, heq])
    · exact .inr (.inr (.inl ⟨written, by rw [perform, heq]⟩))
  | deleteRule id =>
    obtain ⟨-, heq⟩ | ⟨-, heq⟩ := deleteRule_cases store id
    · exact .inl (by rw [perform, heq])
    · exact .inr (.inr (.inr ⟨id, by rw [perform, heq]⟩))
  | deleteAnalysis id => exact .inl (deleteAnalysis_rules store id)
  | _ => exact .inl rfl

/-- Each rule keeps an id of its own. -/
theorem keyed_perform (h : store.rules.Keyed RuleField) (op : Operation) :
    (store.perform now op).2.rules.Keyed RuleField := by
  obtain heq | ⟨rule, hid, heq⟩ | ⟨rule, heq⟩ | ⟨id, heq⟩ := rules_perform_cases store now op <;>
    rw [heq]
  · exact h
  · exact h.push hid
  · exact h.replace
  · exact h.erase

/-- A rule that has gone does not come back. -/
theorem Gone.perform (h : store.Gone id) (op : Operation) : (store.perform now op).2.Gone id := by
  have hnone : store.rules.find? RuleField id = none := h.findRule
  obtain heq | ⟨rule, hid, heq⟩ | ⟨rule, heq⟩ | ⟨target, heq⟩ := rules_perform_cases store now op
  · exact ⟨heq ▸ h.le_last, by rw [Store.findRule, heq, hnone]⟩
  · -- the new rule has an id that is beyond the last one given
    have hlast : id < store.rules.nextId := Int.lt_add_one_of_le h.le_last
    refine ⟨heq ▸ Int.le_of_lt hlast, ?_⟩
    rw [Store.findRule, heq]
    refine Table.find?_eq_none_iff.mpr fun other hother ↦ ?_
    rcases List.mem_append.mp hother with hold | hnew
    · exact h.ne_id hold
    · rw [List.mem_singleton.mp hnew]
      exact fun hsame ↦ Int.ne_of_gt hlast (hid.symm.trans hsame)
  · refine ⟨heq ▸ h.le_last, ?_⟩
    rw [Store.findRule, heq, Table.find?_replace, hnone]
    exact ite_self none
  · refine ⟨heq ▸ h.le_last, ?_⟩
    rw [Store.findRule, heq, Table.find?_erase, hnone]
    exact ite_self none

/-- Only the deletion of an analysis result takes one away. -/
theorem analyses_perform {op : Operation} (h : ∀ id, op ≠ .deleteAnalysis id) :
    (store.perform now op).2.analyses = store.analyses := by
  cases op with
  | insertRule draft =>
    obtain ⟨-, heq⟩ | ⟨-, rule, -, -, -, -, heq⟩ := insertRule_cases store draft now <;>
      rw [perform, heq]
  | updateRule id changes draft =>
    obtain ⟨-, heq⟩ | ⟨rule, written, -, -, ⟨-, heq⟩ | ⟨-, heq⟩⟩ :=
      updateRule_cases store id changes draft now <;> rw [perform, heq]
  | deleteRule id =>
    obtain ⟨-, heq⟩ | ⟨-, heq⟩ := deleteRule_cases store id <;> rw [perform, heq]
  | deleteAnalysis id => exact absurd rfl (h id)
  | _ => rfl

end RuleWatch.Store
