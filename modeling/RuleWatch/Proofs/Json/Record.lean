import Mathlib.Data.List.Nodup
import Mathlib.Data.List.Pairwise
import RuleWatch.Proofs.Json.Reads

/-!
# What records read of values

A record is read field by field, whatever order the members come in: a field has the value of the
one member that goes by one of its keys, or without such a member the value that it has when it is
left out. Members that no field goes by do not matter, and a record that is given as an array stands
for an object of its items under the names of the fields.
-/

namespace RuleWatch.Json

open Result

/-- The keys that a field goes by. -/
def Field.keys (f : Field) : List String :=
  f.name :: f.otherKeys

/-- The keys of an object. -/
def keys : Json → List String
  | .object members => members.map Prod.fst
  | _ => []

variable {α β : Type} {R : Json → α → Prop} {keys names : List String} {v : Json}
  {members : List (String × Json)}

/-! ## Members -/

/-- The values of the members that have one of the keys. -/
def under (keys : List String) (members : List (String × Json)) : List Json :=
  (members.filter fun m ↦ m.1 ∈ keys).map Prod.snd

theorem under_cons_of_mem {key : String} (h : key ∈ keys) :
    under keys ((key, v) :: members) = v :: under keys members := by
  rw [under, List.filter_cons_of_pos (by simpa using h), List.map_cons, under]

theorem under_cons_of_notMem {key : String} (h : key ∉ keys) :
    under keys ((key, v) :: members) = under keys members := by
  rw [under, List.filter_cons_of_neg (by simpa using h), under]

theorem under_eq_nil (h : ∀ m ∈ members, m.1 ∉ keys) : under keys members = [] := by
  rw [under, List.filter_eq_nil_iff.mpr (by simpa using h), List.map_nil]

theorem mem_under_iff : v ∈ under keys members ↔ ∃ key ∈ keys, (key, v) ∈ members := by
  simp [under, and_comm]

/-- What the values that are given for a field make of it: the only one decides, and if there is
none, the field is as it is when left out. -/
def Gives (R : Json → α → Prop) (absent : α) (a : α) : List Json → Prop
  | [] => a = absent
  | [v] => R v a
  | _ => False

theorem Gives.of_mem {absent a : α} {values : List Json} (h : Gives R absent a values)
    (hv : v ∈ values) : R v a := by
  match values, h with
  | [_], h => exact List.mem_singleton.mp hv ▸ h

/-- A field is not as it is when left out if it is given something that does not come to that. -/
theorem Gives.ne_absent_iff {absent a : α} {values : List Json} {P : Json → Prop}
    (h : Gives R absent a values) (hR : ∀ {v a}, R v a → (a ≠ absent ↔ P v)) :
    a ≠ absent ↔ ∃ v ∈ values, P v := by
  match values, h with
  | [], h => simpa [Gives] using h
  | [v], h => simpa using hR h

/-- What the members of a value are that is to be a record with fields of these names. -/
inductive HasMembers (names : List String) : Json → List (String × Json) → Prop
  | object (members : List (String × Json)) : HasMembers names (.object members) members
  | array {items : List Json} (h : items.length ≤ names.length) :
    HasMembers names (.array items) (names.zip items)

theorem isWhole_ofJson (v : Json) : (Outline.ofJson v).isWhole = true := by
  cases v <;> rfl

/-! ## Fields -/

/-- The values can be given for the field. -/
structure Field.Accepts (f : Field) (values : List Json) : Prop where
  single : values.length ≤ 1
  check : ∀ v ∈ values, f.check (.ofJson v) = .ok ()

namespace Record

variable {fields : List Field} {f : Field} {key : String} {found found' : Found}
  {items : List Json}

/-- What has been found is what the members give for each field. -/
def Shows (fields : List Field) (members : List (String × Json)) (found : Found) : Prop :=
  ∀ f ∈ fields, (found.lookup f.name).toList = (under f.keys members).map .ofJson

theorem mem_keys_iff : key ∈ f.keys ↔ (f.name == key || f.otherKeys.contains key) = true := by
  rw [Field.keys, List.mem_cons, eq_comm]
  simp

theorem of_field? (h : field? fields key = some f) : f ∈ fields ∧ key ∈ f.keys := by
  have hkey := List.find?_some h
  exact ⟨List.mem_of_find?_eq_some h, mem_keys_iff.mpr hkey⟩

theorem notMem_keys_of_field? (h : field? fields key = none) (hf : f ∈ fields) : key ∉ f.keys :=
  mt mem_keys_iff.mp (List.find?_eq_none.mp h f hf)

/-- Fields that have no key in common are told apart by any of their keys. -/
theorem eq_of_mem_keys (hkeys : (fields.flatMap Field.keys).Nodup) {g : Field} (hf : f ∈ fields)
    (hg : g ∈ fields) (hkeyf : key ∈ f.keys) (hkeyg : key ∈ g.keys) : f = g := by
  by_contra hne
  have hsymm : Std.Symm (Function.onFun List.Disjoint Field.keys) := ⟨fun _ _ h key hg hf ↦ h hf hg⟩
  exact (List.nodup_flatMap.mp hkeys).2.forall hf hg hne hkeyf hkeyg

theorem name_mem_keys (f : Field) : f.name ∈ f.keys :=
  List.mem_cons_self

theorem name_ne (hkeys : (fields.flatMap Field.keys).Nodup) {g : Field} (hf : f ∈ fields)
    (hg : g ∈ fields) (hne : f ≠ g) : f.name ≠ g.name := fun heq ↦
  hne (eq_of_mem_keys hkeys hf hg (name_mem_keys f) (heq ▸ name_mem_keys g))

/-! ## Objects -/

theorem findEntries_cons_of_none (h : field? fields key = none) :
    findEntries fields true found (Outline.ofMembers ((key, v) :: members)) =
      findEntries fields true found (Outline.ofMembers members) := by
  simp only [Outline.ofMembers, findEntries, h, isWhole_ofJson, if_true]

theorem findEntries_cons_of_some (h : field? fields key = some f) :
    findEntries fields true found (Outline.ofMembers ((key, v) :: members)) =
      if (found.lookup f.name).isSome then .error .shape
      else f.check (.ofJson v) >>= fun _ ↦
        findEntries fields true ((f.name, .ofJson v) :: found) (Outline.ofMembers members) := by
  simp only [Outline.ofMembers, findEntries, h]

/-- For each field is found what was found before and what the members give. -/
theorem toList_lookup_of_findEntries (hkeys : (fields.flatMap Field.keys).Nodup)
    (h : findEntries fields true found (Outline.ofMembers members) = .ok found')
    (hf : f ∈ fields) :
    (found'.lookup f.name).toList =
      (found.lookup f.name).toList ++ (under f.keys members).map .ofJson := by
  induction members generalizing found with
  | nil =>
    obtain rfl : found = found' := Except.ok.inj h
    simp [under]
  | cons m members ih =>
    obtain ⟨key, v⟩ := m
    cases hfield : field? fields key with
    | none =>
      rw [findEntries_cons_of_none hfield] at h
      rw [under_cons_of_notMem (notMem_keys_of_field? hfield hf)]
      exact ih h
    | some g =>
      obtain ⟨hg, hkey⟩ := of_field? hfield
      rw [findEntries_cons_of_some hfield] at h
      split_ifs at h with hnew
      obtain ⟨-, hrest⟩ := bind_unit_eq_ok_iff.mp h
      rw [ih hrest]
      by_cases hsame : f = g
      · subst hsame
        rw [under_cons_of_mem hkey, List.lookup_cons, beq_self_eq_true,
          Option.not_isSome_iff_eq_none.mp hnew]
        rfl
      · have hother : key ∉ f.keys := fun hmem ↦ hsame (eq_of_mem_keys hkeys hf hg hmem hkey)
        rw [under_cons_of_notMem hother, List.lookup_cons,
          beq_false_of_ne (name_ne hkeys hf hg hsame)]

/-- Members that can be given for each field are found. -/
theorem exists_findEntries (hkeys : (fields.flatMap Field.keys).Nodup)
    (h : ∀ f ∈ fields, f.Accepts (under f.keys members))
    (hnew : ∀ f ∈ fields, under f.keys members ≠ [] → found.lookup f.name = none) :
    ∃ found', findEntries fields true found (Outline.ofMembers members) = .ok found' := by
  induction members generalizing found with
  | nil => exact ⟨found, rfl⟩
  | cons m members ih =>
    obtain ⟨key, v⟩ := m
    cases hfield : field? fields key with
    | none =>
      have hunder : ∀ f ∈ fields, under f.keys ((key, v) :: members) = under f.keys members :=
        fun f hf ↦ under_cons_of_notMem (notMem_keys_of_field? hfield hf)
      rw [findEntries_cons_of_none hfield]
      exact ih (fun f hf ↦ hunder f hf ▸ h f hf) fun f hf ↦ hunder f hf ▸ hnew f hf
    | some g =>
      obtain ⟨hg, hkey⟩ := of_field? hfield
      -- The first member is the only one of its field, so the others find nothing before them.
      have hgiven : under g.keys ((key, v) :: members) = v :: under g.keys members :=
        under_cons_of_mem hkey
      have hnone : under g.keys members = [] := by
        have hsingle := (h g hg).single
        rw [hgiven, List.length_cons] at hsingle
        exact List.eq_nil_of_length_eq_zero (by omega)
      have hunder : ∀ f ∈ fields, f ≠ g →
          under f.keys ((key, v) :: members) = under f.keys members := fun f hf hne ↦
        under_cons_of_notMem fun hmem ↦ hne (eq_of_mem_keys hkeys hf hg hmem hkey)
      have hlookup : found.lookup g.name = none := hnew g hg (by simp [hgiven])
      have hcheck : g.check (.ofJson v) = .ok () := (h g hg).check v (by simp [hgiven])
      rw [findEntries_cons_of_some hfield, hlookup, hcheck]
      refine ih (fun f hf ↦ ?_) fun f hf hsome ↦ ?_
      · by_cases hsame : f = g
        · rw [hsame, hnone]
          exact ⟨by simp, by simp⟩
        · exact hunder f hf hsame ▸ h f hf
      · have hne : f ≠ g := fun hsame ↦ hsome (hsame ▸ hnone)
        rw [List.lookup_cons, beq_false_of_ne (name_ne hkeys hf hg hne)]
        exact hnew f hf (hunder f hf hne ▸ hsome)

/-! ## Arrays -/

theorem under_zip_eq_nil (h : ∀ name ∈ names, name ∉ keys) :
    under keys (names.zip items) = [] :=
  under_eq_nil fun _ hm ↦ h _ (List.of_mem_zip hm).1

/-- An array that has ended gives nothing. -/
theorem eq_nil_of_findItems_nil (h : findItems true fields [] = .ok found) : found = [] := by
  induction fields with
  | nil => exact (Except.ok.inj h).symm
  | cons f fields ih =>
    rw [findItems] at h
    split_ifs at h
    exact ih h

/-- Fields that come first have no key of those that follow. -/
theorem notMem_keys_of_nodup {g : Field} (hkeys : ((g :: fields).flatMap Field.keys).Nodup)
    (hf : f ∈ fields) (hkey : key ∈ f.keys) : key ∉ g.keys := fun hmem ↦ by
  rw [List.flatMap_cons, List.nodup_append'] at hkeys
  exact hkeys.2.2 hmem (List.mem_flatMap_of_mem hf hkey)

theorem under_zip_cons {g : Field} (hkeys : ((g :: fields).flatMap Field.keys).Nodup) (v : Json)
    (items : List Json) :
    under g.keys (((g :: fields).map Field.name).zip (v :: items)) = [v] ∧
      ∀ f ∈ fields, under f.keys (((g :: fields).map Field.name).zip (v :: items)) =
        under f.keys ((fields.map Field.name).zip items) := by
  rw [List.map_cons, List.zip_cons_cons, under_cons_of_mem (name_mem_keys g),
    under_zip_eq_nil]
  · exact ⟨rfl, fun f hf ↦ under_cons_of_notMem fun hmem ↦
      notMem_keys_of_nodup hkeys hf hmem (name_mem_keys g)⟩
  · intro name hname
    obtain ⟨f, hf, rfl⟩ := List.mem_map.mp hname
    exact notMem_keys_of_nodup hkeys hf (name_mem_keys f)

/-- For each field is found the item in its place. -/
theorem of_findItems (hkeys : (fields.flatMap Field.keys).Nodup)
    (h : findItems true fields (Outline.ofItems items) = .ok found) :
    items.length ≤ (fields.map Field.name).length ∧
      Shows fields ((fields.map Field.name).zip items) found := by
  induction fields generalizing items found with
  | nil =>
    cases items with
    | nil => exact ⟨Nat.le_refl _, fun f hf ↦ by contradiction⟩
    | cons v items => contradiction
  | cons g fields ih =>
    cases items with
    | nil =>
      obtain rfl := eq_nil_of_findItems_nil h
      exact ⟨by simp, fun f hf ↦ by simp [under]⟩
    | cons v items =>
      obtain ⟨-, hfound⟩ := bind_unit_eq_ok_iff.mp h
      obtain ⟨rest, hitems, hfound⟩ := bind_eq_ok_iff.mp hfound
      obtain rfl := Except.ok.inj hfound
      obtain ⟨hlength, hshows⟩ := ih (List.nodup_append'.mp hkeys).2.1 hitems
      obtain ⟨hgiven, hunder⟩ := under_zip_cons hkeys v items
      refine ⟨Nat.succ_le_succ hlength, fun f hf ↦ ?_⟩
      obtain rfl | hf := List.mem_cons.mp hf
      · rw [hgiven, List.lookup_cons, beq_self_eq_true]
        rfl
      · have hname : f.name ≠ g.name := fun heq ↦
          notMem_keys_of_nodup hkeys hf (name_mem_keys f) (heq ▸ name_mem_keys g)
        rw [List.lookup_cons, beq_false_of_ne hname, hunder f hf]
        exact hshows f hf

/-- Items that can be given for the fields in their order are found. -/
theorem exists_findItems (hkeys : (fields.flatMap Field.keys).Nodup)
    (hends : ∀ f ∈ fields, f.mayEndBefore = true)
    (hlength : items.length ≤ (fields.map Field.name).length)
    (h : ∀ f ∈ fields, f.Accepts (under f.keys ((fields.map Field.name).zip items))) :
    ∃ found, findItems true fields (Outline.ofItems items) = .ok found := by
  induction fields generalizing items with
  | nil =>
    obtain rfl : items = [] := List.eq_nil_of_length_eq_zero (Nat.le_zero.mp hlength)
    exact ⟨[], rfl⟩
  | cons g fields ih =>
    obtain ⟨hend, hends⟩ := List.forall_mem_cons.mp hends
    have hrest : (fields.flatMap Field.keys).Nodup := (List.nodup_append'.mp hkeys).2.1
    cases items with
    | nil =>
      have hnone : ∀ f ∈ fields, f.Accepts (under f.keys ((fields.map Field.name).zip [])) :=
        fun f _ ↦ ⟨by simp [under], by simp [under]⟩
      obtain ⟨found, hfound⟩ := ih hrest hends (Nat.zero_le _) hnone
      exact ⟨found, by simpa [Outline.ofItems, findItems, hend] using hfound⟩
    | cons v items =>
      obtain ⟨hgiven, hunder⟩ := under_zip_cons hkeys v items
      obtain ⟨hg, h⟩ := List.forall_mem_cons.mp h
      obtain ⟨found, hfound⟩ := ih hrest hends (Nat.le_of_succ_le_succ hlength)
        fun f hf ↦ hunder f hf ▸ h f hf
      have hcheck : g.check (.ofJson v) = .ok () :=
        hg.check v (hgiven ▸ List.mem_singleton_self v)
      refine ⟨(g.name, .ofJson v) :: found, ?_⟩
      rw [Outline.ofItems, findItems, hcheck, hfound]
      rfl

/-! ## Builds -/

/-- All fields have a property, and the same is built of what has been found alike. -/
structure Respects (r : Record α) (P : Field → Prop) (S : Found → Found → Prop) : Prop where
  check : ∀ f ∈ r.fields, P f
  build : ∀ {found found'}, S found found' → r.build found = r.build found'

section

variable {r : Record α} {P : Field → Prop} {S : Found → Found → Prop}

theorem Respects.map (h : r.Respects P S) (g : α → β) : (g <$> r).Respects P S where
  check := h.check
  build hfound := congrArg (g <$> ·) (h.build hfound)

theorem Respects.seq {s : Record (α → β)} (hs : s.Respects P S) (h : r.Respects P S) :
    (s <*> r).Respects P S where
  check f hf := (List.mem_append.mp hf).elim (hs.check f) (h.check f)
  build {found found'} hfound := by
    change (s.build found >>= fun g ↦ r.build found >>= fun a ↦ pure (g a)) =
      s.build found' >>= fun g ↦ r.build found' >>= fun a ↦ pure (g a)
    rw [hs.build hfound, h.build hfound]

/-- A field with a value of its own is built of what is found for it, or of nothing. -/
theorem respects_defaulted {name : String} {d : Decoder α} {absent : α} {otherKeys : List String}
    (hP : P ⟨name, otherKeys, true, fun o ↦ (d o).map fun _ ↦ ()⟩)
    (hS : ∀ {found found'}, S found found' →
      fieldValue name d (.ok absent) found = fieldValue name d (.ok absent) found') :
    (defaulted name otherKeys d absent).Respects P S where
  check _ hf := List.mem_singleton.mp hf ▸ hP
  build := hS

end

/-! ## Meanings -/

variable {r : Record α} {r' : Record β} {M : List (String × Json) → α → Prop}

/-- What the record says of the members that it is made of. -/
structure Means (r : Record α) (M : List (String × Json) → α → Prop) : Prop where
  build : ∀ {members found}, Shows r.fields members found →
    ∀ a, r.build found = .ok a ↔ M members a
  accepts : ∀ {members a}, M members a → ∀ f ∈ r.fields, f.Accepts (under f.keys members)

theorem Means.congr {M' : List (String × Json) → α → Prop} (h : r.Means M)
    (hM : ∀ members a, M members a ↔ M' members a) : r.Means M' where
  build hshows a := (h.build hshows a).trans (hM _ a)
  accepts ha := h.accepts ((hM _ _).mpr ha)

/-- A field with a value of its own means what is given for it. -/
theorem means_defaulted {d : Decoder α} (h : d.Reads R) (name : String)
    (otherKeys : List String) (absent : α) :
    (defaulted name otherKeys d absent).Means fun members a ↦
      Gives R absent a (under (name :: otherKeys) members) where
  build {members found} hshows a := by
    have hvalues := hshows _ (List.mem_singleton_self _)
    change (found.lookup name).toList = (under (name :: otherKeys) members).map .ofJson at hvalues
    change fieldValue name d (.ok absent) found = .ok a ↔ _
    cases hunder : under (name :: otherKeys) members with
    | nil =>
      have hnone : found.lookup name = none := by simpa [hunder] using hvalues
      simp [fieldValue, hnone, Gives, eq_comm]
    | cons v rest =>
      have hsome : found.lookup name = some (.ofJson v) ∧ rest = [] := by
        cases hlookup : found.lookup name <;> simp_all
      obtain ⟨hsome, rfl⟩ := hsome
      rw [fieldValue, hsome]
      exact h v a
  accepts {members a} ha f hf := by
    obtain rfl := List.mem_singleton.mp hf
    change Field.Accepts _ (under (name :: otherKeys) members)
    generalize under (name :: otherKeys) members = values at ha ⊢
    match values, ha with
    | [], _ => exact ⟨Nat.zero_le 1, by simp⟩
    | [v], ha =>
      refine ⟨Nat.le_refl 1, fun v' hv' ↦ ?_⟩
      rw [List.mem_singleton.mp hv']
      exact congrArg (Except.map fun _ ↦ ()) ((h v a).mpr ha)

theorem Means.map (f : α → β) (h : r.Means M) :
    (f <$> r).Means fun members b ↦ ∃ a, M members a ∧ f a = b where
  build hshows b := by
    refine (map_eq_ok_iff (f := f) (x := r.build _)).trans ?_
    simp only [h.build hshows]
  accepts := by
    rintro members b ⟨a, ha, -⟩
    exact h.accepts ha

theorem Means.seq {s : Record (α → β)} {S : List (String × Json) → (α → β) → Prop}
    (hs : s.Means S) (h : r.Means M) :
    (s <*> r).Means fun members b ↦ ∃ g a, S members g ∧ M members a ∧ g a = b where
  build {members found} hshows b := by
    have hleft : Shows s.fields members found := fun f hf ↦ hshows f (List.mem_append_left _ hf)
    have hright : Shows r.fields members found := fun f hf ↦ hshows f (List.mem_append_right _ hf)
    change (s.build found >>= fun g ↦ r.build found >>= fun a ↦ pure (g a)) = .ok b ↔ _
    simp only [bind_eq_ok_iff, hs.build hleft, h.build hright, pure, Except.pure, Except.ok.injEq,
      exists_and_left]
  accepts := by
    rintro members b ⟨g, a, hg, ha, -⟩ f hf
    exact (List.mem_append.mp hf).elim (hs.accepts hg f) (h.accepts ha f)

theorem Means.ofEntries_eq_ok_iff (h : r.Means M) (hkeys : (r.fields.flatMap Field.keys).Nodup)
    (a : α) : r.ofEntries (Outline.ofMembers members) true = .ok a ↔ M members a := by
  refine bind_eq_ok_iff.trans ⟨?_, fun ha ↦ ?_⟩
  · rintro ⟨found, hfound, hbuild⟩
    refine (h.build (fun f hf ↦ ?_) a).mp hbuild
    simpa using toList_lookup_of_findEntries hkeys hfound hf
  · have hnew : ∀ f ∈ r.fields, under f.keys members ≠ [] → ([] : Found).lookup f.name = none :=
      fun _ _ _ ↦ rfl
    obtain ⟨found, hfound⟩ := exists_findEntries hkeys (h.accepts ha) hnew
    refine ⟨found, hfound, (h.build (fun f hf ↦ ?_) a).mpr ha⟩
    simpa using toList_lookup_of_findEntries hkeys hfound hf

/-- A record whose fields have values of their own is read from the members of a value. -/
theorem Means.decoder (h : r.Means M) (hkeys : (r.fields.flatMap Field.keys).Nodup)
    (hends : ∀ f ∈ r.fields, f.mayEndBefore = true) :
    r.decoder.Reads fun v a ↦
      ∃ members, HasMembers (r.fields.map Field.name) v members ∧ M members a := by
  intro v a
  cases v with
  | object members =>
    refine (h.ofEntries_eq_ok_iff hkeys a).trans ⟨fun ha ↦ ⟨members, .object members, ha⟩, ?_⟩
    rintro ⟨_, ⟨⟩, ha⟩
    exact ha
  | array items =>
    refine bind_eq_ok_iff.trans ⟨?_, ?_⟩
    · rintro ⟨found, hfound, hbuild⟩
      obtain ⟨hlength, hshows⟩ := of_findItems hkeys hfound
      exact ⟨_, .array hlength, (h.build hshows a).mp hbuild⟩
    · rintro ⟨_, _ | hlength, ha⟩
      obtain ⟨found, hfound⟩ := exists_findItems hkeys hends hlength (h.accepts ha)
      exact ⟨found, hfound, (h.build (of_findItems hkeys hfound).2 a).mpr ha⟩
  | _ =>
    refine iff_of_false (fun h ↦ by contradiction) ?_
    rintro ⟨_, ⟨⟩, _⟩

end Record

end RuleWatch.Json
