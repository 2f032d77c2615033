import RuleWatch.Proofs.Json.Buffered
import RuleWatch.Proofs.Json.Silent
import RuleWatch.Proofs.Text.Integer
import RuleWatch.Rule.Coding

/-!
# Requests to change a rule

The id of a request is read from its one member and the changes from all the others, whatever order
they come in (`ofBytes_updateRequest`). Changes do not tell a null from a member that is left out,
nor a blank threshold, and an id may be a text: so the same can be asked for in other words
(`Restates`).
-/

namespace RuleWatch.Rule

open Json Result

variable {members members' before after : List (String × Json)} {entries : List Entry}
  {key : String} {n : Int} {o : Outline} {s : String} {v : Json} {body : Bytes}

/-! ## The id and the others -/

/-- The members beside the id. -/
def besideId (members : List (String × Json)) : List (String × Json) :=
  members.filter fun m ↦ m.1 ≠ "id"

theorem besideId_append (before after : List (String × Json)) :
    besideId (before ++ after) = besideId before ++ besideId after :=
  List.filter_append ..

theorem besideId_cons_of_ne (hkey : key ≠ "id") :
    besideId ((key, v) :: members) = (key, v) :: besideId members :=
  List.filter_cons_of_pos (by simpa using hkey)

theorem besideId_cons_id : besideId (("id", v) :: members) = besideId members :=
  List.filter_cons_of_neg (by simp)

theorem besideId_eq_self (hid : "id" ∉ members.map Prod.fst) : besideId members = members :=
  List.filter_eq_self.mpr fun m hm ↦ by
    simpa using fun heq : m.1 = "id" ↦ hid (heq ▸ List.mem_map_of_mem hm)

/-- What members ask for: an id, and changes beside it. -/
def requestOf (members : List (String × Json)) : Except Fault (Int × Changes) :=
  match members.lookup "id" with
  | none => .error .shape
  | some v => do
    let id ← idDecoder.ofJson v
    return (id, ← Changes.ofMembers (besideId members))

theorem steady_idDecoder : idDecoder.Steady :=
  steady_member_bind (fun _ ↦ rfl) fun _ ↦ rfl

/-- Once the id has been read, all that follows is other members. -/
theorem splitId_some (h : List.Forall₂ IsEntryOf members entries)
    (hid : "id" ∉ members.map Prod.fst) (others : List (String × Json)) :
    splitId true (some n) others entries = .ok (some n, others.reverse ++ members) := by
  induction h generalizing others with
  | nil => simp [splitId]
  | @cons m e members entries he _ ih =>
    obtain ⟨key, v⟩ := m
    obtain ⟨_, o⟩ := e
    obtain ⟨rfl, hread⟩ := he
    obtain ⟨hkey, hid⟩ := not_or.mp (mt List.mem_cons.mpr hid)
    rw [splitId, if_neg (Ne.symm hkey), hread]
    exact (ih hid _).trans (by simp)

theorem splitId_none (h : List.Forall₂ IsEntryOf members entries)
    (hkeys : (members.map Prod.fst).Nodup) (others : List (String × Json)) :
    splitId true none others entries =
      match members.lookup "id" with
      | none => .ok (none, others.reverse ++ besideId members)
      | some v => do return (some (← idDecoder.ofJson v), others.reverse ++ besideId members) := by
  induction h generalizing others with
  | nil => simp [splitId, besideId]
  | @cons m e members entries he htail ih =>
    obtain ⟨key, v⟩ := m
    obtain ⟨_, o⟩ := e
    obtain ⟨rfl, hread⟩ := he
    obtain ⟨hnew, hkeys⟩ := List.nodup_cons.mp hkeys
    by_cases hkey : key = "id"
    · subst hkey
      rw [splitId, if_pos rfl, besideId_cons_id, besideId_eq_self hnew, steady_idDecoder hread]
      simp only [List.lookup_cons, beq_self_eq_true, splitId_some htail hnew]
      rfl
    · rw [splitId, if_neg hkey, hread, besideId_cons_of_ne hkey, List.lookup_cons,
        beq_false_of_ne (Ne.symm hkey)]
      exact (ih hkeys _).trans (by simp)

/-- A request is read from the members of its body, whatever their order. -/
theorem ofBytes_updateRequest (hbody : IsObjectOf body members)
    (hkeys : (members.map Prod.fst).Nodup) :
    updateRequest.ofBytes body = requestOf members :=
  hbody.ofBytes_eq fun entries hentries ↦ by
    rw [updateRequest, splitId_none hentries hkeys, requestOf]
    cases members.lookup "id" with
    | none => rfl
    | some v =>
      dsimp only
      cases idDecoder.ofJson v <;> rfl

theorem lookup_eq_some_iff_mem (hkeys : (members.map Prod.fst).Nodup) :
    members.lookup key = some v ↔ (key, v) ∈ members := by
  refine List.lookup_eq_some_iff.trans ⟨?_, fun hmem ↦ ?_⟩
  · rintro ⟨before, after, rfl, -⟩
    exact List.mem_append_right before (.head after)
  · obtain ⟨before, after, rfl⟩ := List.append_of_mem hmem
    refine ⟨before, after, rfl, fun m hm ↦ ?_⟩
    rw [List.map_append, List.nodup_append'] at hkeys
    exact bne_iff_ne.mpr fun heq ↦ hkeys.2.2 (List.mem_map_of_mem hm) (heq ▸ .head _)

/-- Members ask for what the id alone and the changes alone say. -/
theorem requestOf_eq_ok_iff (hkeys : (members.map Prod.fst).Nodup) {id : Int} {changes : Changes} :
    requestOf members = .ok (id, changes) ↔
      (∃ v, ("id", v) ∈ members ∧ idDecoder.ofJson v = .ok id) ∧
        Changes.ofMembers (besideId members) = .ok changes := by
  simp only [← lookup_eq_some_iff_mem hkeys]
  unfold requestOf
  cases members.lookup "id" with
  | none => simp
  | some v => simp [bind_eq_ok_iff, pure, Except.pure]

/-! ## Changes -/

/-- The keys of the two thresholds. -/
def thresholdKeys : List String :=
  ["subhealth_threshold", "fault_threshold"]

theorem steady_threshold : threshold.Steady := fun {o v} hread ↦ by
  have hsteady : Decoder.Steady fun o ↦ Decoder.member o >>= thresholdOfJson :=
    steady_member_bind (fun _ ↦ rfl) fun _ ↦ rfl
  cases outlines_of_value hread with
  | scalar => rfl
  | array | object => exact hsteady hread

/-- Changes are built of texts and of thresholds. -/
theorem respects_changes {P : Field → Prop} {S : Found → Found → Prop}
    (htext : ∀ name ∉ thresholdKeys, (free name .string).Respects P S)
    (hthreshold : ∀ name, (freeThreshold name).Respects P S) : Changes.record.Respects P S := by
  have hcondition (kind threshold : String) (hkind : kind ∉ thresholdKeys) :
      (freeCondition kind threshold).Respects P S :=
    ((htext kind hkind).map _).seq (hthreshold threshold)
  have hquery := ((htext "name" (by decide)).map Changes.mk).seq (htext "expression" (by decide))
  have hsubhealth := hcondition "subhealth_condition_type" "subhealth_threshold" (by decide)
  have hfault := hcondition "fault_condition_type" "fault_threshold" (by decide)
  have hconditions := (hquery.seq hsubhealth).seq hfault
  exact (hconditions.seq (htext "severity" (by decide))).seq (htext "duration" (by decide))

/-- It makes no difference to changes whether they are read from a text or have been read before. -/
theorem steady_changes : Changes.record.Steady :=
  respects_changes (fun name _ ↦ Record.steady_defaulted steady_string.nullable name [] none)
    fun name ↦ Record.steady_defaulted steady_threshold name [] none

/-- The value says nothing under the key: it is null, or it is no threshold where one may stand. -/
def SaysNothing (key : String) (o : Outline) : Prop :=
  threshold o = .ok none ∧ (o = .null ∨ key ∈ thresholdKeys)

theorem saysNothing_null (key : String) : SaysNothing key .null :=
  ⟨rfl, .inl rfl⟩

theorem saysNothing_blank (hkey : key ∈ thresholdKeys) (hs : Text.isBlankText s) :
    SaysNothing key (.string (some s)) := by
  refine ⟨?_, .inr hkey⟩
  change Except.ok (thresholdOfText s) = _
  rw [thresholdOfText, Text.trim_of_isBlankText hs]
  rfl

theorem SaysNothing.ignores (h : SaysNothing key o) : Changes.record.Ignores key o := by
  refine respects_changes (fun name hname ↦ ?_) fun name ↦ ?_
  · refine Record.ignores_defaulted (fun heq ↦ ?_) []
    obtain rfl | hkey := h.2
    · rfl
    · exact absurd (heq ▸ hkey) hname
  · exact Record.ignores_defaulted (fun _ ↦ h.1) []

theorem keys_of_mem_changes {f : Field} (hf : f ∈ Changes.record.fields) : f.keys = [f.name] := by
  have hothers : Changes.record.fields.map Field.otherKeys = List.replicate 8 [] := rfl
  have hmem : f.otherKeys ∈ List.replicate 8 [] := hothers ▸ List.mem_map_of_mem hf
  rw [Field.keys, List.eq_of_mem_replicate hmem]

/-- Such a member makes no difference to the changes. -/
theorem SaysNothing.ofMembers_eq (h : SaysNothing key (.ofJson v))
    (hkeys : ((before ++ (key, v) :: after).map Prod.fst).Nodup) :
    Changes.ofMembers (before ++ (key, v) :: after) = Changes.ofMembers (before ++ after) := by
  refine Record.ofEntries_silent (by decide) fun f hf hkey ↦ ?_
  rw [keys_of_mem_changes hf] at hkey ⊢
  obtain rfl := List.mem_singleton.mp hkey
  refine ⟨h.ignores, fun m hm hsame ↦ ?_⟩
  rw [List.map_append, List.map_cons, List.nodup_middle, ← List.map_append] at hkeys
  have hmem := List.mem_map_of_mem (f := Prod.fst) hm
  rw [List.mem_singleton.mp hsame] at hmem
  exact (List.nodup_cons.mp hkeys).1 hmem

/-! ## Other words -/

/-- Another list of members that asks for the same: a member that says nothing is left out, or the
id is given as a text. -/
inductive Restates : List (String × Json) → List (String × Json) → Prop
  | null {before after : List (String × Json)} {key : String} (hkey : key ≠ "id") :
    Restates (before ++ (key, .null) :: after) (before ++ after)
  | blank {before after : List (String × Json)} {key s : String} (hkey : key ∈ thresholdKeys)
    (hs : Text.isBlankText s) :
    Restates (before ++ (key, .string s) :: after) (before ++ after)
  | id {before after : List (String × Json)} {n : Int} {s : String} (hs : Text.IsTextOf n s) :
    Restates (before ++ ("id", .number (.int n)) :: after) (before ++ ("id", .string s) :: after)

/-- An id is read of a text as it is read of the integer. -/
theorem idOfJson_text (h : Text.IsTextOf n s) (hlow : Text.minInt64 ≤ n) :
    idOfJson (.string s) = idOfJson (.number (.int n)) := by
  obtain ⟨cs, hcs, htrim⟩ := h.trim_eq
  rw [idOfJson, idOfJson, htrim]
  by_cases hhigh : n ≤ Text.maxInt64
  · rw [hcs.int64?_eq hlow hhigh, if_pos hhigh]
  · rw [hcs.int64?_eq_none (.inr (Int.not_le.mp hhigh)), if_neg hhigh]

theorem idDecoder_eq_of_member (h : Decoder.member o = .ok v) : idDecoder o = idOfJson v := by
  simp only [idDecoder, h, bind, Except.bind]

theorem idDecoder_text (h : Text.IsTextOf n s) (hlow : Text.minInt64 ≤ n) :
    idDecoder.ofJson (.string s) = idDecoder.ofJson (.number (.int n)) := by
  have hstring : idDecoder (.string (some s)) = idOfJson (.string s) :=
    idDecoder_eq_of_member (by rw [Decoder.member, Decoder.value])
  have hnumber : idDecoder (.number (some (.int n))) = idOfJson (.number (.int n)) :=
    idDecoder_eq_of_member (by rw [Decoder.member, Decoder.value])
  rw [Decoder.ofJson, Decoder.ofJson, Outline.ofJson, Outline.ofJson, hstring, hnumber]
  exact idOfJson_text h hlow

/-- Members that a text can have: no key comes twice, and an id that is an integer is not less than
all those of 64 bits. -/
structure IsPlain (members : List (String × Json)) : Prop where
  keys : (members.map Prod.fst).Nodup
  id : ∀ n, ("id", .number (.int n)) ∈ members → Text.minInt64 ≤ n

theorem isPlain_of_isObjectOf (hbody : IsObjectOf body members)
    (hkeys : (members.map Prod.fst).Nodup) : IsPlain members :=
  ⟨hkeys, fun _ hmem ↦ (hbody.fitsWord hmem).1⟩

theorem IsPlain.sublist (h : IsPlain members) (hsub : members'.Sublist members) :
    IsPlain members' :=
  ⟨h.keys.sublist (hsub.map _), fun n hmem ↦ h.id n (hsub.mem hmem)⟩

theorem Restates.isPlain (h : Restates members members') (hplain : IsPlain members) :
    IsPlain members' := by
  cases h with
  | null | blank => exact hplain.sublist ((List.sublist_cons_self ..).append_left _)
  | @id before after n s hs =>
    refine ⟨by simpa using hplain.keys, fun k hmem ↦ hplain.id k ?_⟩
    simp only [List.mem_append, List.mem_cons] at hmem ⊢
    grind

/-- A member that says nothing makes no difference to a request. -/
theorem SaysNothing.requestOf_eq (h : SaysNothing key (.ofJson v)) (hkey : key ≠ "id")
    (hkeys : ((before ++ (key, v) :: after).map Prod.fst).Nodup) :
    requestOf (before ++ (key, v) :: after) = requestOf (before ++ after) := by
  have hbeside : besideId (before ++ (key, v) :: after) =
      besideId before ++ (key, v) :: besideId after := by
    rw [besideId_append, besideId_cons_of_ne hkey]
  have hnodup : ((besideId before ++ (key, v) :: besideId after).map Prod.fst).Nodup :=
    hbeside ▸ hkeys.sublist (List.filter_sublist.map _)
  unfold requestOf
  rw [hbeside, h.ofMembers_eq hnodup, besideId_append, List.lookup_append, List.lookup_append,
    List.lookup_cons, beq_false_of_ne (Ne.symm hkey)]

theorem Restates.requestOf_eq (h : Restates members members') (hplain : IsPlain members) :
    requestOf members' = requestOf members := by
  cases h with
  | null hkey => exact ((saysNothing_null _).requestOf_eq hkey hplain.keys).symm
  | blank hkey hs =>
    have hne : _ ≠ "id" := fun heq ↦ absurd (heq ▸ hkey) (by decide : "id" ∉ thresholdKeys)
    exact ((saysNothing_blank hkey hs).requestOf_eq hne hplain.keys).symm
  | @id before after n s hs =>
    have hread := idDecoder_text hs (hplain.id n (by simp))
    unfold requestOf
    simp only [besideId_append, besideId_cons_id, List.lookup_append, List.lookup_cons_self]
    cases before.lookup "id" with
    | none => simp only [Option.none_or, hread]
    | some v => rfl

/-- However often members are restated, they ask for the same. -/
theorem requestOf_eq_of_restates (h : Relation.ReflTransGen Restates members members')
    (hplain : IsPlain members) : requestOf members' = requestOf members ∧ IsPlain members' := by
  induction h with
  | refl => exact ⟨rfl, hplain⟩
  | tail _ hstep ih => exact ⟨(hstep.requestOf_eq ih.2).trans ih.1, hstep.isPlain ih.2⟩

end RuleWatch.Rule
