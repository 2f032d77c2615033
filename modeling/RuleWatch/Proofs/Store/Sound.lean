import RuleWatch.Proofs.Rule.Part
import RuleWatch.Proofs.Store.Operation

/-!
# Sound stores

A store is sound when each rule has an id of its own that has been given to it, a name of its own,
and sound parts. An operation keeps a store sound if the draft that it brings in is sound, whatever
rule the operation meets: a write takes each part either from the draft or from the rule that is
there.
-/

namespace RuleWatch.Store

open Listing

variable {gate : Expression.Gate} {store : Store} {draft : Rule.Draft} {changes : Rule.Changes}
  {id now : Int}

/-! ## Soundness -/

/-- Each rule has an id and a name of its own, and sound parts. -/
structure Sound (gate : Expression.Gate) (store : Store) : Prop where
  keyed : store.rules.Keyed RuleField
  drafts : ∀ rule ∈ store.rules.rows, rule.toDraft.IsSound gate
  names : ∀ rule ∈ store.rules.rows, ∀ other ∈ store.rules.rows,
    rule.name = other.name → rule.id = other.id

namespace Sound

theorem of_rows_eq_nil (h : store.rules.rows = []) : store.Sound gate where
  keyed := .of_rows_eq_nil h
  drafts := by simp [h]
  names := by simp [h]

/-- Only the rules matter. -/
theorem of_rules_eq {store' : Store} (h : store.Sound gate) (heq : store'.rules = store.rules) :
    store'.Sound gate := by
  obtain ⟨keyed, drafts, names⟩ := h
  constructor <;> rwa [heq]

/-- No two rules have one name. -/
theorem nodup_names (h : store.Sound gate) : (store.rules.rows.map fun r ↦ r.name).Nodup := by
  refine List.Nodup.map_on (fun rule hrule other hother heq ↦ ?_) (.of_map _ h.keyed.nodup)
  exact List.inj_on_of_nodup_map h.keyed.nodup hrule hother (h.names rule hrule other hother heq)

theorem isSound_writeParts {rule : Rule} (hrule : rule.toDraft.IsSound gate)
    (hdraft : draft.IsSound gate) :
    (writeParts rule changes (storedDraft draft) now).toDraft.IsSound gate := by
  intro p
  rw [Rule.part_writeParts]
  split
  · exact (hdraft p).stored.1
  · exact hrule p

protected theorem insertRule (h : store.Sound gate) (hdraft : draft.IsSound gate) :
    (store.insertRule draft now).2.Sound gate := by
  obtain ⟨-, heq⟩ | ⟨hfree, rule, hrule, hid, -, -, heq⟩ := insertRule_cases store draft now
  · rwa [heq]
  rw [heq]
  have heqName : rule.name = draft.name := by rw [hrule]; rfl
  have hname : ∀ old ∈ store.rules.rows, old.name ≠ rule.name := fun old hold ↦
    heqName ▸ isFree_iff.mp hfree old hold (h.keyed.ne_nextId hold)
  refine ⟨h.keyed.push hid, fun new hnew ↦ ?_, fun a ha b hb hab ↦ ?_⟩
  · rcases List.mem_append.mp hnew with hold | hnew
    · exact h.drafts new hold
    · rw [List.mem_singleton.mp hnew, hrule]
      exact fun p ↦ (hdraft p).stored.1
  · rcases List.mem_append.mp ha with ha | ha <;> rcases List.mem_append.mp hb with hb | hb
    · exact h.names a ha b hb hab
    · exact absurd (List.mem_singleton.mp hb ▸ hab) (hname a ha)
    · exact absurd (List.mem_singleton.mp ha ▸ hab).symm (hname b hb)
    · rw [List.mem_singleton.mp ha, List.mem_singleton.mp hb]

protected theorem updateRule (h : store.Sound gate) (hdraft : draft.IsSound gate) :
    (store.updateRule id changes draft now).2.Sound gate := by
  obtain ⟨-, heq⟩ | ⟨rule, written, hfound, hwritten, ⟨-, heq⟩ | ⟨hfree, heq⟩⟩ :=
    updateRule_cases store id changes draft now
  · rwa [heq]
  · rwa [heq]
  have hid : written.id = id := id_of_updateRule (congrArg Prod.fst heq)
  rw [heq]
  have hname : ∀ old ∈ store.rules.rows, old.id ≠ written.id → old.name ≠ written.name :=
    fun old hold hne ↦ isFree_iff.mp hfree old hold (hid ▸ hne)
  refine ⟨h.keyed.replace, fun new hnew ↦ ?_, fun a ha b hb hab ↦ ?_⟩
  · rcases Table.mem_replace.mp hnew with ⟨rfl, -⟩ | ⟨hold, -⟩
    · rw [hwritten]
      exact isSound_writeParts (h.drafts rule (mem_of_findRule hfound)) hdraft
    · exact h.drafts new hold
  · rcases Table.mem_replace.mp ha with ⟨rfl, -⟩ | ⟨holdA, hneA⟩ <;>
      rcases Table.mem_replace.mp hb with ⟨rfl, -⟩ | ⟨holdB, hneB⟩
    · rfl
    · exact absurd hab.symm (hname b holdB hneB)
    · exact absurd hab (hname a holdA hneA)
    · exact h.names a holdA b holdB hab

protected theorem deleteRule (h : store.Sound gate) : (store.deleteRule id).2.Sound gate := by
  obtain ⟨-, heq⟩ | ⟨-, heq⟩ := deleteRule_cases store id
  · rwa [heq]
  rw [heq]
  refine ⟨h.keyed.erase, fun rule hrule ↦ ?_, fun a ha b hb ↦ ?_⟩
  · exact h.drafts rule (Table.mem_erase.mp hrule).1
  · exact h.names a (Table.mem_erase.mp ha).1 b (Table.mem_erase.mp hb).1

end Sound

/-- The draft that the operation brings in, if any, is sound. -/
def Operation.IsSound (gate : Expression.Gate) : Operation → Prop
  | .insertRule draft | .updateRule _ _ draft => draft.IsSound gate
  | _ => True

/-- An operation that brings in nothing but a sound draft keeps the store sound. -/
theorem Sound.perform (h : store.Sound gate) {op : Operation} (hop : op.IsSound gate) :
    (store.perform now op).2.Sound gate := by
  cases op with
  | insertRule draft => exact h.insertRule hop
  | updateRule id changes draft => exact h.updateRule hop
  | deleteRule id => exact h.deleteRule
  | deleteAnalysis id => exact h.of_rules_eq (deleteAnalysis_rules store id)
  | _ => exact h

end RuleWatch.Store
