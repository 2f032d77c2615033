import Mathlib.Data.List.Nodup
import RuleWatch.Store.Basic

/-!
# Tables as maps

A table of which each row has an id of its own, none of them beyond the last id given, is a map from
ids to rows: `Table.find?` after an operation is told from `Table.find?` before it.
-/

namespace RuleWatch.Store.Table

open Listing

variable {φ ρ : Type} [Column φ ρ] {table : Table ρ} {row : ρ} {id id' : Int}

/-- Each row has an id of its own, and no id is beyond the last one given. -/
structure Keyed (φ : Type) {ρ : Type} [Column φ ρ] (table : Table ρ) : Prop where
  nodup : (table.rows.map (Column.id φ)).Nodup
  le_last : ∀ row ∈ table.rows, Column.id φ row ≤ table.lastId

/-! ## Finding rows -/

theorem mem_of_find? (h : table.find? φ id = some row) : row ∈ table.rows :=
  List.mem_of_find?_eq_some h

theorem id_of_find? (h : table.find? φ id = some row) : Column.id φ row = id := by
  simpa using List.find?_some h

theorem find?_eq_none_iff :
    table.find? φ id = none ↔ ∀ row ∈ table.rows, Column.id φ row ≠ id := by
  simp [find?]

/-- In a table whose rows have ids of their own, a row is found by its id. -/
theorem Keyed.find?_eq_some_iff (h : table.Keyed φ) :
    table.find? φ id = some row ↔ row ∈ table.rows ∧ Column.id φ row = id := by
  refine ⟨fun hrow ↦ ⟨mem_of_find? hrow, id_of_find? hrow⟩, fun ⟨hrow, hid⟩ ↦ ?_⟩
  cases hfound : table.find? φ id with
  | none => exact absurd hid (find?_eq_none_iff.mp hfound row hrow)
  | some other =>
    have hother : Column.id φ other = Column.id φ row := (id_of_find? hfound).trans hid.symm
    rw [List.inj_on_of_nodup_map h.nodup (mem_of_find? hfound) hrow hother]

theorem find?_of_rows_eq_nil (h : table.rows = []) : table.find? φ id = none := by
  simp [find?, h]

theorem Keyed.of_rows_eq_nil (h : table.rows = []) : table.Keyed φ := by
  constructor <;> simp [h]

/-- No row has the next id. -/
theorem Keyed.ne_nextId (h : table.Keyed φ) (hrow : row ∈ table.rows) :
    Column.id φ row ≠ table.nextId := by
  have := h.le_last row hrow
  unfold nextId
  omega

/-! ## One more row -/

theorem Keyed.push (h : table.Keyed φ) (hid : Column.id φ row = table.nextId) :
    (table.push row).Keyed φ where
  nodup := by
    have hnew : ∀ old ∈ table.rows, Column.id φ old ≠ Column.id φ row := fun old hold ↦
      hid ▸ h.ne_nextId hold
    simpa [Table.push, List.nodup_append, h.nodup] using hnew
  le_last := by
    intro other hother
    have hlast : table.lastId ≤ table.nextId := by unfold nextId; omega
    rcases List.mem_append.mp hother with hold | hnew
    · exact Int.le_trans (h.le_last other hold) hlast
    · rw [List.mem_singleton.mp hnew, hid]
      exact Int.le_refl _

theorem Keyed.find?_push (h : table.Keyed φ) (hid : Column.id φ row = table.nextId) :
    (table.push row).find? φ id' = if id' = table.nextId then some row else table.find? φ id' := by
  unfold find? Table.push
  rw [List.find?_append]
  split
  next hnext =>
    have hnone : table.rows.find? (fun old ↦ Column.id φ old == id') = none :=
      List.find?_eq_none.mpr fun old hold ↦ by simpa [hnext] using h.ne_nextId hold
    rw [hnone]
    simp [hid, hnext]
  next hnext =>
    have hne : table.nextId ≠ id' := Ne.symm hnext
    simp [hid, hne]

/-! ## One row less -/

theorem mem_erase : row ∈ (table.erase φ id).rows ↔ row ∈ table.rows ∧ Column.id φ row ≠ id := by
  simp [erase]

theorem Keyed.erase (h : table.Keyed φ) : (table.erase φ id).Keyed φ where
  nodup := h.nodup.sublist (List.filter_sublist.map _)
  le_last row hrow := h.le_last row (mem_erase.mp hrow).1

theorem find?_erase :
    (table.erase φ id).find? φ id' = if id' = id then none else table.find? φ id' := by
  unfold find? Table.erase
  rw [List.find?_filter]
  split
  next heq => simp [heq]
  next hne =>
    congr 1
    funext row
    by_cases hrow : Column.id φ row = id' <;> simp [hrow, hne]

/-! ## Another row in place of one -/

theorem mem_replace {new : ρ} :
    row ∈ (table.replace φ new).rows ↔
      (row = new ∧ ∃ old ∈ table.rows, Column.id φ old = Column.id φ new) ∨
        row ∈ table.rows ∧ Column.id φ row ≠ Column.id φ new := by
  constructor
  · intro h
    obtain ⟨old, hold, rfl⟩ := List.mem_map.mp h
    by_cases hid : Column.id φ old = Column.id φ new
    · exact .inl ⟨by simp [hid], old, hold, hid⟩
    · exact .inr (by simp [hid, hold])
  · rintro (⟨rfl, old, hold, hid⟩ | ⟨hrow, hid⟩)
    · exact List.mem_map.mpr ⟨old, hold, by simp [hid]⟩
    · exact List.mem_map.mpr ⟨row, hrow, by simp [hid]⟩

theorem map_id_replace {new : ρ} :
    (table.replace φ new).rows.map (Column.id φ) = table.rows.map (Column.id φ) := by
  simp only [replace, List.map_map]
  refine List.map_congr_left fun old _ ↦ ?_
  by_cases hid : Column.id φ old = Column.id φ new <;> simp [hid]

theorem Keyed.replace {new : ρ} (h : table.Keyed φ) : (table.replace φ new).Keyed φ where
  nodup := by rw [map_id_replace]; exact h.nodup
  le_last := by
    intro row hrow
    have hid : Column.id φ row ∈ table.rows.map (Column.id φ) := by
      rw [← map_id_replace]
      exact List.mem_map_of_mem hrow
    obtain ⟨old, hold, heq⟩ := List.mem_map.mp hid
    exact heq ▸ h.le_last old hold

theorem find?_replace {new : ρ} :
    (table.replace φ new).find? φ id' =
      if id' = Column.id φ new then (table.find? φ id').map fun _ ↦ new
      else table.find? φ id' := by
  unfold find? Table.replace
  generalize table.rows = rows
  induction rows with
  | nil => simp
  | cons old rest ih =>
    rw [List.map_cons, List.find?_cons, ih, List.find?_cons]
    by_cases hold : Column.id φ old = Column.id φ new
    · by_cases hid : id' = Column.id φ new
      · simp [hold, hid]
      · have hne : (Column.id φ new == id') = false := by simpa using Ne.symm hid
        simp [hold, hid, hne]
    · by_cases hid : Column.id φ old = id'
      · have hne : id' ≠ Column.id φ new := hid ▸ hold
        simp [hid, hne]
      · have hne : (Column.id φ old == id') = false := by simpa using hid
        simp [hold, hne]

end RuleWatch.Store.Table
