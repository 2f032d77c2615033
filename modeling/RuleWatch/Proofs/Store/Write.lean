import RuleWatch.Proofs.Store.Sound

/-!
# What an operation writes

After an operation each part of a rule has either been written by it, and is equal to the part of
the draft that the operation brought in, or it is what it was before.
-/

namespace RuleWatch.Store

open Listing

variable {gate : Expression.Gate} {store : Store} {draft : Rule.Draft} {changes : Rule.Changes}
  {id now : Int} {p : Rule.Part}

/-- The draft from which an operation has written a part of the rule with an id, judging by its
answer. -/
def Operation.written? (id : Int) (p : Rule.Part) : (op : Operation) → op.Answer → Option Rule.Draft
  | .insertRule draft, .ok rule => if rule.id = id then some draft else none
  | .updateRule target changes draft, .ok _ =>
    if target = id ∧ changes.names p then some draft else none
  | _, _ => none

/-- A part of a rule is as the operation has written it, or the operation has not written it and it
is as it was in the store before. -/
def IsWrittenOrKept (store : Store) (op : Operation) (answer : op.Answer) (p : Rule.Part)
    (rule : Rule) : Prop :=
  (∃ d, op.written? rule.id p answer = some d ∧ p.Equal (rule.part p) (d.part p)) ∨
    (op.written? rule.id p answer = none ∧
      ∃ old ∈ store.rules.rows, old.id = rule.id ∧ old.part p = rule.part p)

/-- A new rule is written in all its parts, and no other rule is. -/
theorem isWrittenOrKept_insertRule (h : store.Sound gate) (hdraft : draft.IsSound gate) {new : Rule}
    (hnew : new ∈ (store.insertRule draft now).2.rules.rows) :
    store.IsWrittenOrKept (.insertRule draft) (store.insertRule draft now).1 p new := by
  obtain ⟨-, heq⟩ | ⟨-, rule, hrule, hid, -, -, heq⟩ := insertRule_cases store draft now
  · rw [heq] at hnew ⊢
    exact .inr ⟨rfl, new, hnew, rfl, rfl⟩
  · rw [heq] at hnew ⊢
    rcases List.mem_append.mp hnew with hold | hlast
    · have hne : rule.id ≠ new.id := hid ▸ (h.keyed.ne_nextId hold).symm
      exact .inr ⟨if_neg hne, new, hold, rfl, rfl⟩
    · rw [List.mem_singleton.mp hlast]
      refine .inl ⟨draft, if_pos rfl, ?_⟩
      rw [hrule]
      exact (hdraft p).stored.2

/-- A changed rule is written in the parts that the changes name, and no other rule is. -/
theorem isWrittenOrKept_updateRule (hdraft : draft.IsSound gate) {new : Rule}
    (hnew : new ∈ (store.updateRule id changes draft now).2.rules.rows) :
    store.IsWrittenOrKept (.updateRule id changes draft)
      (store.updateRule id changes draft now).1 p new := by
  obtain ⟨-, heq⟩ | ⟨rule, written, hfound, hwritten, ⟨-, heq⟩ | ⟨-, heq⟩⟩ :=
    updateRule_cases store id changes draft now
  · rw [heq] at hnew ⊢
    exact .inr ⟨rfl, new, hnew, rfl, rfl⟩
  · rw [heq] at hnew ⊢
    exact .inr ⟨rfl, new, hnew, rfl, rfl⟩
  have hid : written.id = id := id_of_updateRule (congrArg Prod.fst heq)
  rw [heq] at hnew ⊢
  rcases Table.mem_replace.mp hnew with ⟨rfl, -⟩ | ⟨hold, hne⟩
  · have hpart : new.part p =
        if changes.names p then (storedDraft draft).part p else rule.part p := by
      rw [hwritten, Rule.part_writeParts]
    by_cases hp : changes.names p
    · refine .inl ⟨draft, if_pos ⟨hid.symm, hp⟩, ?_⟩
      rw [hpart, if_pos hp]
      exact (hdraft p).stored.2
    · refine .inr ⟨if_neg fun hnamed ↦ hp hnamed.2, rule, mem_of_findRule hfound, ?_, ?_⟩
      · rw [id_of_findRule hfound, hid]
      · rw [hpart, if_neg hp]
  · have hother : id ≠ new.id := fun heqId ↦ hne (hid.trans heqId).symm
    exact .inr ⟨if_neg fun hnamed ↦ hother hnamed.1, new, hold, rfl, rfl⟩

/-- Each part of each rule has been written by an operation, or is what it was. -/
theorem isWrittenOrKept_perform (h : store.Sound gate) {op : Operation} (hop : op.IsSound gate)
    {new : Rule} (hnew : new ∈ (store.perform now op).2.rules.rows) :
    store.IsWrittenOrKept op (store.perform now op).1 p new := by
  cases op with
  | insertRule draft => exact isWrittenOrKept_insertRule h hop hnew
  | updateRule id changes draft => exact isWrittenOrKept_updateRule hop hnew
  | deleteRule id =>
    refine .inr ⟨rfl, new, ?_, rfl, rfl⟩
    obtain ⟨-, heq⟩ | ⟨-, heq⟩ := deleteRule_cases store id
    · simpa only [perform, heq] using hnew
    · simp only [perform, heq] at hnew
      exact (Table.mem_erase.mp hnew).1
  | deleteAnalysis id =>
    refine .inr ⟨rfl, new, ?_, rfl, rfl⟩
    rw [← deleteAnalysis_rules store id]
    exact hnew
  | _ => exact .inr ⟨rfl, new, hnew, rfl, rfl⟩

/-- A change leaves all rules there, and their parts as they are, but for those that it names. -/
theorem exists_part_updateRule (h : store.Sound gate) {old : Rule} (hold : old ∈ store.rules.rows)
    (hp : old.id = id → changes.names p = false) :
    ∃ new ∈ (store.updateRule id changes draft now).2.rules.rows,
      new.id = old.id ∧ new.part p = old.part p := by
  obtain ⟨-, heq⟩ | ⟨rule, written, hfound, hwritten, ⟨-, heq⟩ | ⟨-, heq⟩⟩ :=
    updateRule_cases store id changes draft now
  · exact ⟨old, heq ▸ hold, rfl, rfl⟩
  · exact ⟨old, heq ▸ hold, rfl, rfl⟩
  have hid : written.id = id := id_of_updateRule (congrArg Prod.fst heq)
  rw [heq]
  by_cases htarget : old.id = id
  · have hsame : rule = old :=
      List.inj_on_of_nodup_map h.keyed.nodup (mem_of_findRule hfound) hold
        ((id_of_findRule hfound).trans htarget.symm)
    refine ⟨written, Table.mem_replace.mpr (.inl ⟨rfl, old, hold, ?_⟩), ?_, ?_⟩
    · exact htarget.trans hid.symm
    · exact hid.trans htarget.symm
    · rw [hwritten, Rule.part_writeParts, hp htarget, hsame]
      rfl
  · have hne : old.id ≠ written.id := fun heqId ↦ htarget (heqId.trans hid)
    exact ⟨old, Table.mem_replace.mpr (.inr ⟨hold, hne⟩), rfl, rfl⟩

end RuleWatch.Store
