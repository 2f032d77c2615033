import RuleWatch.Proofs.Json.Record
import RuleWatch.Proofs.Json.Words
import RuleWatch.Proofs.Keyed

/-!
# What is written is read again

A value that has been written comes back with the members of its objects in the order of their keys
(`Fits.exists_value`). That is one of its rearrangements, and so is the value itself. Whatever is
read of any of them is what was written (`Settles`), also when other doubles have come in place of
those that were written.
-/

namespace RuleWatch.Json

variable {α : Type} {room : Nat} {v w : Json} {members arranged : List (String × Json)}

/-! ## Rearranging -/

/-- The other value is the same but for the order of the members of objects. -/
inductive Rearranges : Json → Json → Prop
  | null : Rearranges .null .null
  | bool (b : Bool) : Rearranges (.bool b) (.bool b)
  | number (n : Number) : Rearranges (.number n) (.number n)
  | string (s : String) : Rearranges (.string s) (.string s)
  | array {items items' : List Json} (h : List.Forall₂ Rearranges items items') :
    Rearranges (.array items) (.array items')
  | object {members members' arranged : List (String × Json)}
    (hkeys : members.map Prod.fst = members'.map Prod.fst)
    (hvalues : List.Forall₂ Rearranges (members.map Prod.snd) (members'.map Prod.snd))
    (hperm : arranged.Perm members') : Rearranges (.object members) (.object arranged)

/-- Every object gives each of its keys once, and not more than `room` containers are inside one
another. -/
inductive Fits : Nat → Json → Prop
  | null {room : Nat} : Fits room .null
  | bool {room : Nat} (b : Bool) : Fits room (.bool b)
  | number {room : Nat} (n : Number) : Fits room (.number n)
  | string {room : Nat} (s : String) : Fits room (.string s)
  | array {room : Nat} {items : List Json} (h : ∀ v ∈ items, Fits room v) :
    Fits (room + 1) (.array items)
  | object {room : Nat} {members : List (String × Json)} (hkeys : (members.map Prod.fst).Nodup)
    (h : ∀ m ∈ members, Fits room m.2) : Fits (room + 1) (.object members)

theorem Fits.mono {room' : Nat} (h : v.Fits room) (hle : room ≤ room') : v.Fits room' := by
  induction h generalizing room' with
  | null => exact .null
  | bool b => exact .bool b
  | number n => exact .number n
  | string s => exact .string s
  | array _ ih =>
    obtain ⟨room', rfl⟩ := Nat.exists_eq_add_of_lt hle
    exact .array fun v hv ↦ ih v hv (by omega)
  | object hkeys _ ih =>
    obtain ⟨room', rfl⟩ := Nat.exists_eq_add_of_lt hle
    exact .object hkeys fun m hm ↦ ih m hm (by omega)

/-- Members correspond if their keys are the same and their values correspond. -/
theorem forall₂_members_iff {β γ : Type} {P : β → γ → Prop} {ms : List (String × β)}
    {es : List (String × γ)} :
    List.Forall₂ (IsMember P) ms es ↔
      ms.map Prod.fst = es.map Prod.fst ∧ List.Forall₂ P (ms.map Prod.snd) (es.map Prod.snd) := by
  constructor
  · intro h
    induction h with
    | nil => exact ⟨rfl, .nil⟩
    | cons hm _ ih => exact ⟨List.cons_eq_cons.mpr ⟨hm.1, ih.1⟩, .cons hm.2 ih.2⟩
  · rintro ⟨hkeys, hvalues⟩
    induction ms generalizing es with
    | nil =>
      obtain rfl : es = [] := List.map_eq_nil_iff.mp hkeys.symm
      exact .nil
    | cons m ms ih =>
      cases es with
      | nil => contradiction
      | cons e es =>
        obtain ⟨hkey, hkeys⟩ := List.cons_eq_cons.mp hkeys
        obtain ⟨hvalue, hvalues⟩ := List.forall₂_cons.mp hvalues
        exact .cons ⟨hkey, hvalue⟩ (ih hkeys hvalues)

theorem exists_forall₂ {β γ : Type} {P : β → γ → Prop} {bs : List β} (h : ∀ b ∈ bs, ∃ c, P b c) :
    ∃ cs, List.Forall₂ P bs cs := by
  induction bs with
  | nil => exact ⟨[], .nil⟩
  | cons b bs ih =>
    obtain ⟨⟨c, hc⟩, h⟩ := List.forall_mem_cons.mp h
    obtain ⟨cs, hcs⟩ := ih h
    exact ⟨c :: cs, .cons hc hcs⟩

theorem Fits.mapDoubles (h : v.Fits room) (f : Double → Double) : (v.mapDoubles f).Fits room := by
  induction h with
  | null => exact .null
  | bool b => exact .bool b
  | number n => cases n <;> exact .number _
  | string s => exact .string s
  | array _ ih =>
    rw [Json.mapDoubles, mapItems_eq_map]
    exact .array (List.forall_mem_map.mpr ih)
  | object hkeys _ ih =>
    rw [Json.mapDoubles, mapMembers_eq_map]
    refine .object ?_ (List.forall_mem_map.mpr ih)
    rwa [List.map_map]

theorem Fits.rearranges_self (h : v.Fits room) : v.Rearranges v := by
  induction h with
  | null => exact .null
  | bool b => exact .bool b
  | number n => exact .number n
  | string s => exact .string s
  | array _ ih => exact .array (List.forall₂_same.mpr ih)
  | object _ _ ih =>
    exact .object rfl (forall₂_members_iff.mp (List.forall₂_same.mpr fun m hm ↦ ⟨rfl, ih m hm⟩)).2
      (.refl _)

/-- Read as any value, it comes back in another order. -/
theorem Fits.exists_value (h : v.Fits room) :
    ∃ w, (Decoder.value room).ofJson v = .ok w ∧ v.Rearranges w := by
  induction h with
  | @null room => exact ⟨.null, by cases room <;> rfl, .null⟩
  | @bool room b => exact ⟨.bool b, by cases room <;> rfl, .bool b⟩
  | @number room n => exact ⟨.number n, by cases room <;> rfl, .number n⟩
  | @string room s => exact ⟨.string s, by cases room <;> rfl, .string s⟩
  | @array room items _ ih =>
    obtain ⟨items', hitems⟩ := exists_forall₂ ih
    have hread : Decoder.items (Decoder.value room) true (Outline.ofItems items) = .ok items' :=
      Decoder.items_eq_ok_iff.mpr (hitems.imp fun _ _ h ↦ h.1)
    exact ⟨.array items', congrArg (Except.map Json.array) hread,
      .array (hitems.imp fun _ _ h ↦ h.2)⟩
  | @object room members hkeys _ ih =>
    obtain ⟨members', hmembers⟩ : ∃ members', List.Forall₂ (IsMember fun v w ↦
        (Decoder.value room).ofJson v = .ok w ∧ v.Rearranges w) members members' :=
      exists_forall₂ fun m hm ↦
        have ⟨w, hw⟩ := ih m hm
        ⟨(m.1, w), rfl, hw⟩
    have hread : Decoder.entries (Decoder.value room) true (Outline.ofMembers members) =
        .ok members' := Decoder.entries_eq_ok_iff.mpr (hmembers.imp fun _ _ h ↦ ⟨h.1, h.2.1⟩)
    obtain ⟨hsame, hvalues⟩ := forall₂_members_iff.mp hmembers
    exact ⟨ofMembers members', congrArg (Except.map ofMembers) hread,
      .object hsame (hvalues.imp fun _ _ h ↦ h.2) (Keyed.ofList_perm (hsame ▸ hkeys))⟩

/-! ## Members in another order -/

theorem Rearranges.exists_members (h : (Json.object members).Rearranges w) :
    ∃ arranged members', w = .object arranged ∧ arranged.Perm members' ∧
      List.Forall₂ (IsMember Rearranges) members members' := by
  cases h with
  | object hkeys hvalues hperm =>
    exact ⟨_, _, rfl, hperm, forall₂_members_iff.mpr ⟨hkeys, hvalues⟩⟩

theorem forall₂_under {members' : List (String × Json)} (keys : List String)
    (h : List.Forall₂ (IsMember Rearranges) members members') :
    List.Forall₂ Rearranges (under keys members) (under keys members') := by
  induction h with
  | nil => exact .nil
  | @cons m m' members members' hm _ ih =>
    obtain ⟨key, v⟩ := m
    obtain ⟨key', v'⟩ := m'
    obtain ⟨rfl, hvalue⟩ : key = key' ∧ v.Rearranges v' := hm
    by_cases hkey : key ∈ keys
    · rw [under_cons_of_mem hkey, under_cons_of_mem hkey]
      exact .cons hvalue ih
    · rw [under_cons_of_notMem hkey, under_cons_of_notMem hkey]
      exact ih

theorem Rearranges.exists_under (h : (Json.object members).Rearranges (.object arranged))
    (keys : List String) :
    ∃ values, (under keys arranged).Perm values ∧
      List.Forall₂ Rearranges (under keys members) values := by
  obtain ⟨_, members', ⟨rfl⟩, hperm, hmembers⟩ := h.exists_members
  exact ⟨_, (hperm.filter _).map _, forall₂_under keys hmembers⟩

theorem Rearranges.under_eq_nil {keys : List String}
    (h : (Json.object members).Rearranges (.object arranged)) (hunder : under keys members = []) :
    under keys arranged = [] := by
  obtain ⟨values, hperm, hvalues⟩ := h.exists_under keys
  rw [hunder, List.forall₂_nil_left_iff] at hvalues
  exact (hvalues ▸ hperm).eq_nil

theorem Rearranges.under_eq_singleton {keys : List String}
    (h : (Json.object members).Rearranges (.object arranged)) (hunder : under keys members = [v]) :
    ∃ w, under keys arranged = [w] ∧ v.Rearranges w := by
  obtain ⟨values, hperm, hvalues⟩ := h.exists_under keys
  rw [hunder, List.forall₂_cons_left_iff] at hvalues
  obtain ⟨w, rest, hw, hrest, rfl⟩ := hvalues
  obtain rfl := List.forall₂_nil_left_iff.mp hrest
  exact ⟨w, List.perm_singleton.mp hperm, hw⟩

/-! ## Settling -/

/-- Whatever has been read is written so that the same is read again, in whatever order its members
come; and so it is if other doubles come in place of those that were written. What is written fits
in so many containers, and its numbers fit if those did that it was read of. -/
structure Settles (R : Json → α → Prop) (write : α → Json)
    (map : (Double → Double) → α → α) (room : Nat) : Prop where
  fits : ∀ {v a}, R v a → (write a).Fits room
  words : ∀ {v a}, R v a → v.FitsWords → (write a).FitsWords
  map_id : ∀ a, map id a = a
  write_map : ∀ f a, write (map f a) = (write a).mapDoubles f
  reads : ∀ {v a w} f, R v a → (write (map f a)).Rearranges w → R w (map f a)

variable {R : Json → α → Prop} {write : α → Json} {map : (Double → Double) → α → α}

theorem Settles.reads_self (h : Settles R write map room) {a : α} (ha : R v a)
    (hw : (write a).Rearranges w) : R w a := by
  have hread : (write (map id a)).Rearranges w → R w (map id a) := h.reads id ha
  rw [h.map_id] at hread
  exact hread hw

/-- What holds no doubles stays as it is. -/
def keep (_ : Double → Double) (a : α) : α := a

@[simp] theorem map_keep (f : Double → Double) (as : List α) : as.map (keep f) = as :=
  List.map_id as

theorem settles_text : Settles IsText .string keep 0 where
  fits _ := .string _
  words _ _ := .string _
  map_id _ := rfl
  write_map _ _ := rfl
  reads _ _ hw := by
    cases hw
    rfl

theorem settles_count : Settles IsCount .ofInt keep 0 where
  fits _ := .number _
  words := by
    rintro _ n ⟨rfl, -⟩ hwords
    exact hwords
  map_id _ := rfl
  write_map _ _ := rfl
  reads _ h hw := by
    cases hw
    exact ⟨rfl, h.2⟩

theorem settles_double : Settles IsDouble .ofDouble id 0 where
  fits _ := .number _
  words := by
    rintro _ x ⟨n, rfl, rfl⟩ hwords
    cases hwords with
    | number h => exact .number h.isFinite_toDouble
  map_id _ := rfl
  write_map _ _ := rfl
  reads _ _ hw := by
    cases hw
    exact ⟨_, rfl, rfl⟩

theorem Settles.list (h : Settles R write map room) :
    Settles (IsList R) (.ofList write) (fun f ↦ List.map (map f)) (room + 1) where
  fits := by
    rintro v as ⟨items, -, has⟩
    refine .array ?_
    induction has with
    | nil => exact fun v hv ↦ by contradiction
    | cons ha _ ih => exact List.forall_mem_cons.mpr ⟨h.fits ha, ih⟩
  words := by
    rintro v as ⟨items, rfl, has⟩ hwords
    have hitems : ∀ v ∈ items, v.FitsWords := by
      cases hwords with
      | array hitems => exact hitems
    refine .array ?_
    clear hwords
    induction has with
    | nil => exact fun v hv ↦ by contradiction
    | cons ha _ ih =>
      obtain ⟨hfirst, hrest⟩ := List.forall_mem_cons.mp hitems
      exact List.forall_mem_cons.mpr ⟨h.words ha hfirst, ih hrest⟩
  map_id as := by
    have hid : map id = id := funext h.map_id
    simp [hid]
  write_map f as := by simp [ofList, mapDoubles, h.write_map, Function.comp_def]
  reads := by
    rintro v as w f ⟨items, -, has⟩ hw
    cases hw with
    | @array _ written hwritten =>
      refine ⟨written, rfl, ?_⟩
      induction has generalizing written with
      | nil =>
        obtain rfl := List.forall₂_nil_left_iff.mp hwritten
        exact .nil
      | cons ha _ ih =>
        obtain ⟨w, rest, hw, hrest, rfl⟩ := List.forall₂_cons_left_iff.mp hwritten
        exact .cons (h.reads f ha hw) (ih hrest)

theorem eq_null_of_rearranges (h : v.Rearranges .null) : v = .null := by
  cases h
  rfl

/-- What may be null settles if what is no null is not written as null. -/
theorem Settles.nullable (h : Settles R write map room) (hnull : ∀ a, write a ≠ .null) :
    Settles (IsNullOr R) (.ofOption write) (fun f ↦ Option.map (map f)) room where
  fits {v o} ho := by
    cases o with
    | none => exact .null
    | some a => exact h.fits ho.2
  words {v o} ho hwords := by
    cases o with
    | none => exact .null
    | some a => exact h.words ho.2 hwords
  map_id o := by cases o <;> simp [h.map_id]
  write_map f o := by
    cases o with
    | none => rfl
    | some a => exact h.write_map f a
  reads {v o w} f ho hw := by
    cases o with
    | none =>
      cases hw
      rfl
    | some a =>
      exact ⟨fun heq ↦ hnull _ (eq_null_of_rearranges (heq ▸ hw)), h.reads f ho.2 hw⟩

/-- A field that is written is given again. -/
theorem Settles.gives {keys : List String} {absent a : α} {f : Double → Double}
    (hs : Settles R write map room) (ha : ∃ v, R v a)
    (h : (Json.object members).Rearranges (.object arranged))
    (hunder : under keys members = [write (map f a)]) :
    Gives R absent (map f a) (under keys arranged) := by
  obtain ⟨v, hv⟩ := ha
  obtain ⟨w, hgiven, hw⟩ := h.under_eq_singleton hunder
  rw [hgiven]
  exact hs.reads f hv hw

/-- What a field has come to be can be given for it, if this is so of its value when left out. -/
theorem Gives.exists_value {absent a : α} {values : List Json} (h : Gives R absent a values)
    (habsent : ∃ v, R v absent) : ∃ v, R v a := by
  match values, h with
  | [], h => exact h ▸ habsent
  | [v], h => exact ⟨v, h⟩

theorem HasMembers.fitsWords {names : List String} (h : HasMembers names v members)
    (hwords : v.FitsWords) : ∀ m ∈ members, m.2.FitsWords := by
  cases h with
  | object =>
    cases hwords with
    | object hwords => exact hwords
  | array =>
    cases hwords with
    | array hwords => exact fun m hm ↦ hwords m.2 (List.of_mem_zip hm).2

/-- What a field has come to be fits if the members did. -/
theorem Settles.fitsWords {keys : List String} {absent a : α} (hs : Settles R write map room)
    (h : Gives R absent a (under keys members)) (habsent : (write absent).FitsWords)
    (hwords : ∀ m ∈ members, m.2.FitsWords) : (write a).FitsWords := by
  have hunder : ∀ v ∈ under keys members, v.FitsWords := fun v hv ↦ by
    obtain ⟨key, -, hmem⟩ := mem_under_iff.mp hv
    exact hwords _ hmem
  generalize under keys members = values at h hunder
  match values, h with
  | [], h => exact h ▸ habsent
  | [v], h => exact hs.words h (hunder v (.head _))

end RuleWatch.Json
