import RuleWatch.Proofs.Rule.Part

/-!
# Rules under disjoint changes

Changes of a rule that have no part in common do not get into each other's way: a part that one of
them names is what that one has made of it, if it has been written, and else it is as it was. So it
only matters which of them have been written, and not in which order
(`Rule.IsAmended.part_eq_of_perm`).
-/

namespace RuleWatch

/-- What is at a place once one more has come was there before, or it is the last. -/
theorem getElem?_concat_cases {α : Type} {as : List α} {a b : α} {place : Nat}
    (h : (as ++ [a])[place]? = some b) : as[place]? = some b ∨ place = as.length ∧ a = b := by
  rcases Nat.lt_or_ge place as.length with hlt | hge
  · exact .inl (List.getElem?_append_left hlt ▸ h)
  · rw [List.getElem?_append_right hge, List.getElem?_singleton,
      Option.ite_none_right_eq_some] at h
    exact .inr ⟨by omega, Option.some.inj h.2⟩

namespace Rule

open Store (storedDraft)

/-- The changes have no part in common. -/
def Changes.Disjoint (changes changes' : Changes) : Prop :=
  ∀ p : Part, ¬ (changes.names p ∧ changes'.names p)

variable {kept row row' : Rule} {all all' : List Changes} {isWritten isWritten' : Nat → Bool}
  {changes : Changes} {place : Nat}

theorem Changes.Disjoint.symm {changes changes' : Changes} (h : changes.Disjoint changes') :
    changes'.Disjoint changes :=
  fun p hp ↦ h p hp.symm

/-- Of disjoint changes no more than one names a part. -/
theorem eq_of_names (h : all.Pairwise Changes.Disjoint) {other : Nat} {changes' : Changes}
    {p : Part} (hplace : all[place]? = some changes) (hother : all[other]? = some changes')
    (hp : changes.names p) (hp' : changes'.names p) : place = other := by
  obtain ⟨hlt, rfl⟩ := List.getElem?_eq_some_iff.mp hplace
  obtain ⟨hlt', rfl⟩ := List.getElem?_eq_some_iff.mp hother
  have hpairs := List.pairwise_iff_getElem.mp h
  rcases Nat.lt_trichotomy place other with hbefore | heq | hafter
  · exact absurd ⟨hp, hp'⟩ (hpairs _ _ hlt hlt' hbefore p)
  · exact heq
  · exact absurd ⟨hp', hp⟩ (hpairs _ _ hlt' hlt hafter p)

/-- The row is what a rule has become by changes of it, of which some have been written. -/
structure IsAmended (kept : Rule) (all : List Changes) (isWritten : Nat → Bool) (row : Rule) :
    Prop where
  id_eq : row.id = kept.id
  createdAt_eq : row.createdAt = kept.createdAt
  part_of_names : ∀ {place : Nat} {changes : Changes} {p : Part},
    all[place]? = some changes → changes.names p →
      row.part p =
        if isWritten place then (storedDraft (kept.merged changes)).part p else kept.part p
  part_eq : ∀ {p : Part}, (∀ changes ∈ all, changes.names p = false) → row.part p = kept.part p

namespace IsAmended

theorem refl : kept.IsAmended [] isWritten kept where
  id_eq := rfl
  createdAt_eq := rfl
  part_of_names := by simp
  part_eq _ := rfl

/-- Changes that have not been written do not matter. -/
theorem append (h : kept.IsAmended all isWritten row)
    (hall : (all ++ [changes]).Pairwise Changes.Disjoint) (hnew : isWritten all.length = false) :
    kept.IsAmended (all ++ [changes]) isWritten row where
  id_eq := h.id_eq
  createdAt_eq := h.createdAt_eq
  part_of_names {place other p} hplace hp := by
    obtain hold | ⟨rfl, rfl⟩ := getElem?_concat_cases hplace
    · exact h.part_of_names hold hp
    · -- no other changes name the part
      rw [hnew]
      refine h.part_eq fun other hother ↦ Bool.eq_false_iff.mpr fun hother' ↦ ?_
      exact (List.pairwise_append.mp hall).2.2 other hother _ (List.mem_singleton_self _) p
        ⟨hother', hp⟩
  part_eq {p} hp := h.part_eq fun other hother ↦ hp other (List.mem_append_left _ hother)

/-- A write makes of the parts that its changes name what becomes of them, and leaves the others as
they are. -/
theorem write (h : kept.IsAmended all isWritten row) (hall : all.Pairwise Changes.Disjoint)
    (hplace : all[place]? = some changes) {written : Rule} (hid : written.id = row.id)
    (hcreated : written.createdAt = row.createdAt)
    (hpart : ∀ p : Part, written.part p =
      if changes.names p then (storedDraft (kept.merged changes)).part p else row.part p)
    (hnow : isWritten' place = true) (hsame : ∀ other ≠ place, isWritten' other = isWritten other) :
    kept.IsAmended all isWritten' written where
  id_eq := hid.trans h.id_eq
  createdAt_eq := hcreated.trans h.createdAt_eq
  part_of_names {other changes' p} hother hp := by
    by_cases heq : other = place
    · subst heq
      obtain rfl := Option.some.inj (hplace.symm.trans hother)
      rw [hpart, if_pos hp, if_pos hnow]
    · have hp' : ¬ changes.names p := fun hp' ↦ heq (eq_of_names hall hother hplace hp hp')
      rw [hpart, if_neg hp', h.part_of_names hother hp, hsame other heq]
  part_eq {p} hp := by
    rw [hpart, if_neg (by simp [hp changes (List.mem_of_getElem? hplace)]), h.part_eq hp]

/-- Whatever the order of the changes, the same of them make the same of a rule. -/
theorem part_eq_of_perm {writes : Changes → Bool} (h : kept.IsAmended all isWritten row)
    (h' : kept.IsAmended all' isWritten' row') (hall : all.Perm all')
    (hwrites : ∀ {place changes}, all[place]? = some changes → isWritten place = writes changes)
    (hwrites' : ∀ {place changes}, all'[place]? = some changes → isWritten' place = writes changes)
    (p : Part) : row'.part p = row.part p := by
  by_cases hp : ∃ changes ∈ all, changes.names p
  · obtain ⟨changes, hmem, hp⟩ := hp
    obtain ⟨place, hplace⟩ := List.getElem?_of_mem hmem
    obtain ⟨place', hplace'⟩ := List.getElem?_of_mem (hall.mem_iff.mp hmem)
    rw [h.part_of_names hplace hp, h'.part_of_names hplace' hp, hwrites hplace, hwrites' hplace']
  · have hnone : ∀ changes ∈ all, changes.names p = false :=
      fun changes hmem ↦ Bool.eq_false_iff.mpr fun hnames ↦ hp ⟨changes, hmem, hnames⟩
    rw [h.part_eq hnone, h'.part_eq fun changes hmem ↦ hnone changes (hall.mem_iff.mpr hmem)]

end IsAmended

end Rule

end RuleWatch
