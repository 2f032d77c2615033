import Mathlib.Data.List.Sort
import Mathlib.Data.String.Basic
import RuleWatch.Keyed

/-!
# Entries in the order of their keys

Entries that are set one after another come to stand in the order of their keys. If no two of them
have one key, they are all kept, and it does not matter in which order they have come.
-/

namespace RuleWatch.Keyed

variable {β : Type} {key : String} {value : β} {entries entries' : List (String × β)}

/-- The entries are in the order of their keys, each key once. -/
def Sorted (entries : List (String × β)) : Prop :=
  entries.Pairwise fun e e' ↦ e.1 < e'.1

theorem Sorted.nodup (h : Sorted entries) : (entries.map Prod.fst).Nodup :=
  List.pairwise_map.mpr (List.Pairwise.imp ne_of_lt h)

theorem mem_set {e : String × β} (h : e ∈ set key value entries) :
    e = (key, value) ∨ e ∈ entries := by
  induction entries with
  | nil => exact .inl (List.mem_singleton.mp h)
  | cons first rest ih =>
    rw [set] at h
    split_ifs at h <;> grind

theorem Sorted.set (h : Sorted entries) : Sorted (set key value entries) := by
  induction entries with
  | nil => exact List.pairwise_singleton ..
  | cons first rest ih =>
    obtain ⟨hfirst, hrest⟩ := List.pairwise_cons.mp h
    rw [Keyed.set]
    split_ifs with hbefore hsame
    · exact h.cons fun e he ↦ (List.mem_cons.mp he).elim (fun heq ↦ heq ▸ hbefore)
        fun he ↦ hbefore.trans (hfirst e he)
    · exact hrest.cons fun e he ↦ hsame ▸ hfirst e he
    · exact (ih hrest).cons fun e he ↦ (mem_set he).elim
        (fun heq ↦ heq ▸ lt_of_le_of_ne (not_lt.mp hbefore) (Ne.symm hsame)) (hfirst e)

/-- An entry with a new key takes the place of none. -/
theorem set_perm (h : key ∉ entries.map Prod.fst) :
    (set key value entries).Perm ((key, value) :: entries) := by
  induction entries with
  | nil => exact .refl _
  | cons first rest ih =>
    obtain ⟨hne, hrest⟩ := not_or.mp (mt List.mem_cons.mpr h)
    rw [set]
    split_ifs with hbefore
    · exact .refl _
    · exact ((ih hrest).cons first).trans (.swap ..)

theorem sorted_foldl {acc : List (String × β)} (h : Sorted acc) :
    Sorted (entries.foldl (fun acc (key, value) ↦ set key value acc) acc) := by
  induction entries generalizing acc with
  | nil => exact h
  | cons first rest ih => exact ih h.set

theorem foldl_perm {acc : List (String × β)} (h : ((entries ++ acc).map Prod.fst).Nodup) :
    (entries.foldl (fun acc (key, value) ↦ set key value acc) acc).Perm (entries ++ acc) := by
  induction entries generalizing acc with
  | nil => exact .refl _
  | cons first rest ih =>
    rw [List.map_append, List.map_cons, List.cons_append, List.nodup_cons, List.mem_append] at h
    have hset : (set first.1 first.2 acc).Perm (first :: acc) :=
      set_perm fun hmem ↦ h.1 (.inr hmem)
    have hall : (rest ++ set first.1 first.2 acc).Perm (first :: rest ++ acc) :=
      (hset.append_left rest).trans List.perm_middle
    have hkeys : ((rest ++ set first.1 first.2 acc).map Prod.fst).Nodup := by
      rw [(hall.map Prod.fst).nodup_iff]
      simpa using h
    exact (ih hkeys).trans hall

theorem mem_of_mem_foldl {acc : List (String × β)} {e : String × β}
    (h : e ∈ entries.foldl (fun acc (key, value) ↦ Keyed.set key value acc) acc) :
    e ∈ entries ++ acc := by
  induction entries generalizing acc with
  | nil => exact h
  | cons first rest ih =>
    have hmem := ih h
    rw [List.mem_append] at hmem
    obtain hmem | hmem := hmem
    · exact .tail _ (List.mem_append_left acc hmem)
    · obtain rfl | hmem := mem_set hmem
      · exact .head _
      · exact .tail _ (List.mem_append_right rest hmem)

/-- No entries come in. -/
theorem mem_of_mem_ofList {e : String × β} (h : e ∈ ofList entries) : e ∈ entries := by
  rw [← List.append_nil entries]
  exact mem_of_mem_foldl h

theorem sorted_ofList (entries : List (String × β)) : Sorted (ofList entries) :=
  sorted_foldl .nil

/-- Entries that have a key each are all kept. -/
theorem ofList_perm (h : (entries.map Prod.fst).Nodup) : (ofList entries).Perm entries := by
  rw [← List.append_nil entries] at h
  exact (foldl_perm h).trans (.of_eq (List.append_nil entries))

/-- Entries in order come to the same in whatever order they are set. -/
theorem Sorted.ofList_eq_of_perm (h : Sorted entries) (hperm : entries'.Perm entries) :
    ofList entries' = entries := by
  have hkeys : (entries'.map Prod.fst).Nodup := ((hperm.map Prod.fst).nodup_iff).mpr h.nodup
  exact ((ofList_perm hkeys).trans hperm).eq_of_pairwise
    (fun e e' _ _ hlt hgt ↦ absurd hlt hgt.asymm) (sorted_ofList entries') h

end RuleWatch.Keyed
