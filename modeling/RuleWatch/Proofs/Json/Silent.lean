import RuleWatch.Proofs.Json.Record

/-!
# Members that say nothing

A field that may be left out can also be given a value that comes to the same. A record that ignores
such a value (`Record.Ignores`) is read alike from an object with the member and from one without
it, and it is refused alike (`Record.ofEntries_silent`).
-/

namespace RuleWatch.Json.Record

variable {α β : Type} {r : Record α} {f : Field} {name key : String} {o : Outline} {v : Json}
  {found found' : Found} {members before after : List (String × Json)}

/-! ## What is ignored -/

/-- The same has been found, and beside it a value for the field of this name. -/
structure Adds (name : String) (o : Outline) (found found' : Found) : Prop where
  absent : found.lookup name = none
  present : found'.lookup name = some o
  others : ∀ n ≠ name, found'.lookup n = found.lookup n

theorem adds_cons (h : found.lookup name = none) : Adds name o found ((name, o) :: found) where
  absent := h
  present := by rw [List.lookup_cons, beq_self_eq_true]
  others n hn := by rw [List.lookup_cons, beq_false_of_ne hn]

theorem lookup_cons_of_ne {n : String} (hn : name ≠ n) (o : Outline) :
    ((n, o) :: found).lookup name = found.lookup name := by
  rw [List.lookup_cons, beq_false_of_ne hn]

/-- Another field is found in both. -/
theorem Adds.cons (h : Adds name o found found') {n : String} (hn : name ≠ n) (o' : Outline) :
    Adds name o ((n, o') :: found) ((n, o') :: found') where
  absent := (lookup_cons_of_ne hn o').trans h.absent
  present := (lookup_cons_of_ne hn o').trans h.present
  others m hm := by
    rw [List.lookup_cons, List.lookup_cons, h.others m hm]

/-- It makes no difference to the record whether the value is given for the field of this name, or
nothing. -/
def Ignores (r : Record α) (name : String) (o : Outline) : Prop :=
  r.Respects (fun f ↦ f.name = name → f.check o = .ok ()) (Adds name o)

theorem ignores_defaulted {n : String} {d : Decoder α} {absent : α}
    (h : n = name → d o = .ok absent) (otherKeys : List String) :
    (defaulted n otherKeys d absent).Ignores name o := by
  refine respects_defaulted (fun hn ↦ congrArg (Except.map fun _ ↦ ()) (h hn))
    fun {found found'} hadds ↦ ?_
  unfold fieldValue
  by_cases hn : n = name
  · rw [hn, hadds.present, hadds.absent]
    exact (h hn).symm
  · rw [hadds.others n hn]

/-! ## Objects -/

/-- What has been found for an ignored field makes no difference to what comes of the rest. -/
theorem Ignores.build_findEntries (h : r.Ignores f.name o)
    (hkeys : (r.fields.flatMap Field.keys).Nodup) (hf : f ∈ r.fields)
    (hadds : Adds f.name o found found') (hothers : ∀ m ∈ members, m.1 ∉ f.keys) :
    (findEntries r.fields true found' (Outline.ofMembers members) >>= r.build) =
      findEntries r.fields true found (Outline.ofMembers members) >>= r.build := by
  induction members generalizing found found' with
  | nil => exact (h.build hadds).symm
  | cons m members ih =>
    obtain ⟨key, v⟩ := m
    obtain ⟨hkey, hothers⟩ := List.forall_mem_cons.mp hothers
    cases hfield : field? r.fields key with
    | none =>
      rw [findEntries_cons_of_none hfield, findEntries_cons_of_none hfield]
      exact ih hadds hothers
    | some g =>
      obtain ⟨hg, hkeyg⟩ := of_field? hfield
      have hname : f.name ≠ g.name := name_ne hkeys hf hg fun heq ↦ hkey (heq ▸ hkeyg)
      rw [findEntries_cons_of_some hfield, findEntries_cons_of_some hfield,
        hadds.others _ hname.symm]
      split
      · rfl
      · rw [bind_assoc, bind_assoc]
        exact bind_congr fun _ ↦ ih (hadds.cons hname _) hothers

theorem build_findEntries_silent (hkeys : (r.fields.flatMap Field.keys).Nodup)
    (h : ∀ f ∈ r.fields, key ∈ f.keys → r.Ignores f.name (.ofJson v) ∧
      found.lookup f.name = none ∧ ∀ m ∈ before ++ after, m.1 ∉ f.keys) :
    (do r.build (← findEntries r.fields true found
      (Outline.ofMembers (before ++ (key, v) :: after)))) =
      findEntries r.fields true found (Outline.ofMembers (before ++ after)) >>= r.build := by
  induction before generalizing found with
  | nil =>
    rw [List.nil_append, List.nil_append]
    cases hfield : field? r.fields key with
    | none => rw [findEntries_cons_of_none hfield]
    | some f =>
      obtain ⟨hf, hkey⟩ := of_field? hfield
      obtain ⟨hignores, hnew, hothers⟩ := h f hf hkey
      rw [findEntries_cons_of_some hfield, hnew, hignores.check f hf rfl]
      exact hignores.build_findEntries hkeys hf (adds_cons hnew) hothers
  | cons m before ih =>
    obtain ⟨key', v'⟩ := m
    rw [List.cons_append, List.cons_append]
    cases hfield : field? r.fields key' with
    | none =>
      rw [findEntries_cons_of_none hfield, findEntries_cons_of_none hfield]
      refine ih fun f hf hkey ↦ ?_
      obtain ⟨hignores, hnew, hothers⟩ := h f hf hkey
      exact ⟨hignores, hnew, (List.forall_mem_cons.mp hothers).2⟩
    | some g =>
      obtain ⟨hg, hkeyg⟩ := of_field? hfield
      rw [findEntries_cons_of_some hfield, findEntries_cons_of_some hfield]
      split
      · rfl
      · rw [bind_assoc, bind_assoc]
        refine bind_congr fun _ ↦ ih fun f hf hkey ↦ ?_
        obtain ⟨hignores, hnew, hothers⟩ := h f hf hkey
        obtain ⟨hother, hothers⟩ := List.forall_mem_cons.mp hothers
        have hname : f.name ≠ g.name := name_ne hkeys hf hg fun heq ↦ hother (heq ▸ hkeyg)
        exact ⟨hignores, (lookup_cons_of_ne hname _).trans hnew, hothers⟩

/-- A member that says nothing may as well be left out, if it is the only one of its field. -/
theorem ofEntries_silent (hkeys : (r.fields.flatMap Field.keys).Nodup)
    (h : ∀ f ∈ r.fields, key ∈ f.keys → r.Ignores f.name (.ofJson v) ∧
      ∀ m ∈ before ++ after, m.1 ∉ f.keys) :
    r.ofEntries (Outline.ofMembers (before ++ (key, v) :: after)) true =
      r.ofEntries (Outline.ofMembers (before ++ after)) true :=
  build_findEntries_silent hkeys fun f hf hkey ↦ ⟨(h f hf hkey).1, rfl, (h f hf hkey).2⟩

end RuleWatch.Json.Record
