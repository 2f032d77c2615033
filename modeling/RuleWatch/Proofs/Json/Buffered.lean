import RuleWatch.Proofs.Json.Settles
import RuleWatch.Proofs.Json.Words

/-!
# Values that are read before they are decoded

A decoder may read its value from the text, or from the value that the text has there and that has
been read before. A decoder of which the same comes either way is steady, and so is a record of
fields with steady decoders. It reads a body that is an object as it reads the object of the members
(`Record.Steady.ofBytes_eq`).
-/

namespace RuleWatch.Json

open Result

variable {α β : Type} {d : Decoder α} {room : Nat} {o : Outline} {v : Json}

/-! ## Values of a text -/

theorem Decoder.of_items {whole : Bool} {os : List Outline} {as : List α}
    (h : Decoder.items d whole os = .ok as) :
    whole = true ∧ ∀ a ∈ as, ∃ o ∈ os, d o = .ok a := by
  induction os generalizing as with
  | nil =>
    unfold items at h
    split_ifs at h with hwhole
    obtain rfl := Except.ok.inj h
    exact ⟨hwhole, by simp⟩
  | cons o os ih =>
    obtain ⟨a, ha, h⟩ := bind_eq_ok_iff.mp h
    obtain ⟨as', has, h⟩ := bind_eq_ok_iff.mp h
    obtain rfl := Except.ok.inj h
    obtain ⟨hwhole, hread⟩ := ih has
    refine ⟨hwhole, List.forall_mem_cons.mpr ⟨⟨o, .head _, ha⟩, fun b hb ↦ ?_⟩⟩
    obtain ⟨o', ho', hb⟩ := hread b hb
    exact ⟨o', .tail _ ho', hb⟩

theorem Decoder.of_entries {whole : Bool} {os : List Entry} {as : List (String × α)}
    (h : Decoder.entries d whole os = .ok as) :
    whole = true ∧ ∀ m ∈ as, ∃ e ∈ os, d e.2 = .ok m.2 := by
  induction os generalizing as with
  | nil =>
    unfold entries at h
    split_ifs at h with hwhole
    obtain rfl := Except.ok.inj h
    exact ⟨hwhole, by simp⟩
  | cons e os ih =>
    obtain ⟨_ | key, o⟩ := e
    · contradiction
    · obtain ⟨a, ha, h⟩ := bind_eq_ok_iff.mp h
      obtain ⟨as', has, h⟩ := bind_eq_ok_iff.mp h
      obtain rfl := Except.ok.inj h
      obtain ⟨hwhole, hread⟩ := ih has
      refine ⟨hwhole, List.forall_mem_cons.mpr ⟨⟨_, .head _, ha⟩, fun m hm ↦ ?_⟩⟩
      obtain ⟨e, he, hm⟩ := hread m hm
      exact ⟨e, .tail _ he, hm⟩

/-- What a text shows of a value, but for what is inside containers. -/
inductive Outlines : Outline → Json → Prop
  | scalar {v : Json} (h : ∀ room, v.Fits room) : Outlines (.ofJson v) v
  | array (os : List Outline) (items : List Json) : Outlines (.array os true) (.array items)
  | object (os : List Entry) (members : List (String × Json)) :
    Outlines (.object os true) (.object members)

theorem outlines_of_value (h : Decoder.value room o = .ok v) : Outlines o v := by
  cases o with
  | broken => cases room <;> contradiction
  | null =>
    obtain rfl : Json.null = v := by cases room <;> exact Except.ok.inj h
    exact .scalar fun _ ↦ .null
  | bool b =>
    obtain rfl : Json.bool b = v := by cases room <;> exact Except.ok.inj h
    exact .scalar fun _ ↦ .bool b
  | number value =>
    cases value with
    | none => cases room <;> contradiction
    | some n =>
      obtain rfl : Json.number n = v := by cases room <;> exact Except.ok.inj h
      exact .scalar fun _ ↦ .number n
  | string value =>
    cases value with
    | none => cases room <;> contradiction
    | some s =>
      obtain rfl : Json.string s = v := by cases room <;> exact Except.ok.inj h
      exact .scalar fun _ ↦ .string s
  | array os whole =>
    cases room with
    | zero => contradiction
    | succ room =>
      obtain ⟨items, hitems, rfl⟩ := map_eq_ok_iff.mp h
      obtain ⟨rfl, -⟩ := Decoder.of_items hitems
      exact .array os items
  | object os whole =>
    cases room with
    | zero => contradiction
    | succ room =>
      obtain ⟨members, hmembers, rfl⟩ := map_eq_ok_iff.mp h
      obtain ⟨rfl, -⟩ := Decoder.of_entries hmembers
      exact .object os _

theorem Outlines.isWhole (h : Outlines o v) : o.isWhole = true := by
  cases h with
  | scalar => exact isWhole_ofJson v
  | array | object => rfl

/-- No object that has been read has a key twice. -/
theorem fits_of_value (h : Decoder.value room o = .ok v) : v.Fits room := by
  induction room generalizing o v with
  | zero =>
    cases outlines_of_value h with
    | scalar hfits => exact hfits 0
    | array | object => contradiction
  | succ room ih =>
    cases outlines_of_value h with
    | scalar hfits => exact hfits _
    | array os items =>
      obtain ⟨items', hitems, heq⟩ := map_eq_ok_iff.mp h
      obtain rfl := Json.array.inj heq
      refine .array fun v hv ↦ ?_
      obtain ⟨o, -, hread⟩ := (Decoder.of_items hitems).2 v hv
      exact ih hread
    | object os members =>
      obtain ⟨members', hmembers, heq⟩ := map_eq_ok_iff.mp h
      obtain rfl := Json.object.inj heq
      refine .object (Keyed.sorted_ofList members').nodup fun m hm ↦ ?_
      obtain ⟨e, -, hread⟩ := (Decoder.of_entries hmembers).2 m (Keyed.mem_of_mem_ofList hm)
      exact ih hread

theorem fitsWords_of_scalar (h : v.Fits 0) (ho : (Outline.ofJson v).FitsWords) : v.FitsWords := by
  cases h with
  | null => exact .null
  | bool b => exact .bool b
  | number n =>
    cases ho with
    | number hword => exact .number (hword n rfl)
  | string s => exact .string s

/-- The numbers of a value that has been read fit if those of the text did. -/
theorem fitsWords_of_value (h : Decoder.value room o = .ok v) (ho : o.FitsWords) :
    v.FitsWords := by
  induction room generalizing o v with
  | zero =>
    cases outlines_of_value h with
    | scalar hfits => exact fitsWords_of_scalar (hfits 0) ho
    | array | object => contradiction
  | succ room ih =>
    cases outlines_of_value h with
    | scalar hfits => exact fitsWords_of_scalar (hfits 0) ho
    | array os items =>
      obtain ⟨items', hitems, heq⟩ := map_eq_ok_iff.mp h
      obtain rfl := Json.array.inj heq
      refine .array fun v hv ↦ ?_
      obtain ⟨o, hmem, hread⟩ := (Decoder.of_items hitems).2 v hv
      cases ho with
      | array ho => exact ih hread (ho o hmem)
    | object os members =>
      obtain ⟨members', hmembers, heq⟩ := map_eq_ok_iff.mp h
      obtain rfl := Json.object.inj heq
      refine .object fun m hm ↦ ?_
      obtain ⟨e, hmem, hread⟩ := (Decoder.of_entries hmembers).2 m (Keyed.mem_of_mem_ofList hm)
      cases ho with
      | object ho => exact ih hread (ho e hmem)

/-! ## Decoders -/

/-- It is the same to decode a value from the text as to decode what has been read of it. -/
def Decoder.Steady (d : Decoder α) : Prop :=
  ∀ {o v}, Decoder.member o = .ok v → d o = d.ofJson v

theorem steady_string : Decoder.string.Steady := fun h ↦ by
  cases outlines_of_value h <;> rfl

theorem Decoder.Steady.nullable (h : d.Steady) : d.nullable.Steady := fun {o v} hread ↦ by
  cases outlines_of_value hread with
  | scalar => rfl
  | array | object => exact congrArg (Except.map some) (h hread)

/-- What is made of a value, if nothing is made of containers. -/
theorem steady_member_bind {f : Json → Except Fault α}
    (harray : ∀ items, f (.array items) = .error .shape)
    (hobject : ∀ members, f (.object members) = .error .shape) :
    Decoder.Steady fun o ↦ Decoder.member o >>= f := fun {o v} hread ↦ by
  obtain ⟨w, hw, hrearranged⟩ := (fits_of_value hread).exists_value
  change Decoder.member o >>= f = Decoder.member (.ofJson v) >>= f
  rw [hread, show Decoder.member (.ofJson v) = .ok w from hw]
  cases hrearranged with
  | array => exact (harray _).trans (harray _).symm
  | object => exact (hobject _).trans (hobject _).symm
  | _ => rfl

/-! ## Objects -/

/-- The entry of a text is the member, whose value can be read. -/
def IsEntryOf (m : String × Json) (e : Entry) : Prop :=
  e.1 = some m.1 ∧ Decoder.member e.2 = .ok m.2

/-- The body is an object with these members, in their order. -/
def IsObjectOf (body : Bytes) (members : List (String × Json)) : Prop :=
  ∃ entries, scan body = (.object entries true, true) ∧ List.Forall₂ IsEntryOf members entries

theorem IsObjectOf.ofBytes_eq {body : Bytes} {members : List (String × Json)} {a : Except Fault α}
    (h : IsObjectOf body members)
    (ha : ∀ entries, List.Forall₂ IsEntryOf members entries → d (.object entries true) = a) :
    d.ofBytes body = a := by
  obtain ⟨entries, hscan, hentries⟩ := h
  rw [Decoder.ofBytes, hscan]
  change (d (.object entries true) >>= fun a ↦ pure a) = a
  rw [bind_pure, ha entries hentries]

theorem fitsWord_of_isEntryOf {members : List (String × Json)} {entries : List Entry}
    {key : String} {n : Number} (h : List.Forall₂ IsEntryOf members entries)
    (hfits : ∀ e ∈ entries, e.2.FitsWords) (hmem : (key, .number n) ∈ members) : n.FitsWord := by
  induction h with
  | nil => exact absurd hmem List.not_mem_nil
  | @cons m e members entries he _ ih =>
    obtain ⟨hfirst, hrest⟩ := List.forall_mem_cons.mp hfits
    obtain rfl | hmem := List.mem_cons.mp hmem
    · cases fitsWords_of_value he.2 hfirst with
      | number hword => exact hword
    · exact ih hrest hmem

/-- Numbers that are members of a text are integers of 64 bits, or doubles. -/
theorem IsObjectOf.fitsWord {body : Bytes} {members : List (String × Json)} {key : String}
    {n : Number} (h : IsObjectOf body members) (hmem : (key, .number n) ∈ members) :
    n.FitsWord := by
  obtain ⟨entries, hscan, hentries⟩ := h
  have hfits := fitsWords_scan body
  rw [hscan] at hfits
  cases hfits with
  | object hfits => exact fitsWord_of_isEntryOf hentries hfits hmem

/-! ## Records -/

namespace Record

variable {r : Record α} {found found' : Found} {entries : List Entry}
  {members : List (String × Json)}

/-- The same has been found, from the text and among values that have been read. -/
def Buffers (found found' : Found) : Prop :=
  List.Forall₂ (IsMember fun o o' ↦ ∃ v, Decoder.member o = .ok v ∧ o' = .ofJson v) found found'

theorem Buffers.lookup (h : Buffers found found') (name : String) :
    (found.lookup name = none ∧ found'.lookup name = none) ∨
      ∃ o v, Decoder.member o = .ok v ∧ found.lookup name = some o ∧
        found'.lookup name = some (.ofJson v) := by
  induction h with
  | nil => exact .inl ⟨rfl, rfl⟩
  | @cons e e' found found' he h ih =>
    obtain ⟨n, o⟩ := e
    obtain ⟨_, _⟩ := e'
    obtain ⟨rfl, v, hread, rfl⟩ := he
    simp only [List.lookup_cons]
    cases name == n with
    | true => exact .inr ⟨o, v, hread, rfl, rfl⟩
    | false => exact ih

/-- It is the same to read the record from the text as to read it from what has been read. -/
def Steady (r : Record α) : Prop :=
  r.Respects (fun f ↦ Decoder.Steady f.check) Buffers

theorem steady_defaulted (h : d.Steady) (name : String) (otherKeys : List String) (absent : α) :
    (defaulted name otherKeys d absent).Steady := by
  refine respects_defaulted (fun hread ↦ congrArg (Except.map fun _ ↦ ()) (h hread))
    fun {found found'} hbuffers ↦ ?_
  unfold fieldValue
  obtain ⟨hnone, hnone'⟩ | ⟨o, v, hread, hsome, hsome'⟩ := hbuffers.lookup name
  · rw [hnone, hnone']
  · rw [hsome, hsome']
    exact h hread

theorem Steady.build_findEntries (h : r.Steady)
    (hentries : List.Forall₂ IsEntryOf members entries) (hbuffers : Buffers found found') :
    (findEntries r.fields true found entries >>= r.build) =
      findEntries r.fields true found' (Outline.ofMembers members) >>= r.build := by
  induction hentries generalizing found found' with
  | nil => exact h.build hbuffers
  | @cons m e members entries he _ ih =>
    obtain ⟨key, v⟩ := m
    obtain ⟨_, o⟩ := e
    obtain ⟨rfl, hread⟩ := he
    cases hfield : field? r.fields key with
    | none =>
      rw [findEntries_cons_of_none hfield, findEntries, hfield]
      simp only [(outlines_of_value hread).isWhole, if_true]
      exact ih hbuffers
    | some f =>
      have hsome : (found.lookup f.name).isSome = (found'.lookup f.name).isSome := by
        obtain ⟨hnone, hnone'⟩ | ⟨o, v, -, hsome, hsome'⟩ := hbuffers.lookup f.name
        · rw [hnone, hnone']
        · rw [hsome, hsome']
          rfl
      have hcheck : f.check o = f.check (.ofJson v) := h.check f (of_field? hfield).1 hread
      rw [findEntries_cons_of_some hfield, findEntries, hfield]
      simp only [hsome, hcheck]
      split
      · rfl
      · rw [bind_assoc, bind_assoc]
        exact bind_congr fun _ ↦ ih (.cons ⟨rfl, v, hread, rfl⟩ hbuffers)

/-- A body that is an object is read as the object of its members. -/
theorem Steady.ofBytes_eq {body : Bytes} (h : r.Steady) (hbody : IsObjectOf body members) :
    r.decoder.ofBytes body = r.decoder.ofJson (.object members) :=
  hbody.ofBytes_eq fun _ hentries ↦ h.build_findEntries hentries .nil

end Record

end RuleWatch.Json
