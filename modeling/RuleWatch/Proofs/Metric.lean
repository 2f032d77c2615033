import Mathlib.Data.List.Perm.Basic
import RuleWatch.Metric
import RuleWatch.Proofs.Json.Settles

/-!
# What metric samples tell

What a sample is read from. Whatever has been read is written so that the same is read again; labels
are written in the order of their names, and a value that is not there is not written.
-/

namespace RuleWatch.Metric

open Json Result

/-! ## Points -/

def IsPoint (v : Json) (p : Point) : Prop :=
  ∃ time, v = .array [time, .string p.value] ∧ IsDouble time p.time

theorem reads_point : Point.decoder.Reads IsPoint := by
  intro v p
  cases v with
  | array items =>
    match items with
    | [] | [_] | _ :: _ :: _ :: _ =>
      exact iff_of_false (fun h ↦ by contradiction) (by simp [IsPoint])
    | [time, value] =>
      change (Decoder.double.ofJson time >>= fun time ↦ Decoder.string.ofJson value >>= fun value ↦
        pure (⟨time, value⟩ : Point)) = .ok p ↔ _
      simp only [bind_eq_ok_iff, Decoder.reads_double _ _, Decoder.reads_string _ _, pure,
        Except.pure, Except.ok.injEq]
      constructor
      · rintro ⟨t, ht, s, rfl, rfl⟩
        exact ⟨time, rfl, ht⟩
      · rintro ⟨_, ⟨rfl⟩, ht⟩
        exact ⟨p.time, ht, p.value, rfl, rfl⟩
  | _ => exact iff_of_false (fun h ↦ by contradiction) (by simp [IsPoint])

/-- The point at another time. -/
def Point.mapDoubles (f : Double → Double) (p : Point) : Point :=
  { p with time := f p.time }

theorem settles_point : Settles IsPoint Point.toJson Point.mapDoubles 1 where
  fits _ := by
    refine .array ?_
    simp only [List.forall_mem_cons]
    exact ⟨.number _, .string _, by simp⟩
  words := by
    rintro v p ⟨time, rfl, htime⟩ hwords
    cases hwords with
    | array hwords =>
      refine .array ?_
      simp only [List.forall_mem_cons]
      exact ⟨settles_double.words htime (hwords time (.head _)), .string _, by simp⟩
  map_id _ := rfl
  write_map _ _ := rfl
  reads := by
    rintro v p w f - (_ | _ | _ | _ | ⟨_ | ⟨⟨⟩, _ | ⟨⟨⟩, ⟨⟩⟩⟩⟩)
    exact ⟨_, rfl, _, rfl, rfl⟩

/-! ## Labels -/

/-- Of two labels with one name the later counts. -/
def IsLabels (v : Json) (labels : List (String × String)) : Prop :=
  ∃ members given, v = .object members ∧ List.Forall₂ (IsMember IsText) members given ∧
    Keyed.ofList given = labels

theorem isLabels_nil : IsLabels (.object []) [] :=
  ⟨[], [], rfl, .nil, rfl⟩

theorem reads_labels : labelsDecoder.Reads IsLabels := by
  intro v labels
  have htext : (fun v s ↦ Decoder.string.ofJson v = .ok s) = IsText :=
    funext₂ fun v s ↦ propext (Decoder.reads_string v s)
  change Keyed.ofList <$> (Decoder.map Decoder.string).ofJson v = .ok labels ↔ _
  simp only [map_eq_ok_iff, Decoder.map_ofJson_eq_ok_iff, htext, IsLabels]
  constructor
  · rintro ⟨given, ⟨members, rfl, hgiven⟩, rfl⟩
    exact ⟨members, given, rfl, hgiven, rfl⟩
  · rintro ⟨members, given, rfl, hgiven, rfl⟩
    exact ⟨given, ⟨members, rfl, hgiven⟩, rfl⟩

/-- Labels as they are written. -/
def labelsToJson (labels : List (String × String)) : Json :=
  .object (labels.map fun (name, value) ↦ (name, .string value))

theorem settles_labels : Settles IsLabels labelsToJson keep 1 where
  fits := by
    rintro v _ ⟨members, given, -, -, rfl⟩
    refine .object ?_ fun m hm ↦ ?_
    · rw [List.map_map]
      exact (Keyed.sorted_ofList given).nodup
    · obtain ⟨label, -, rfl⟩ := List.mem_map.mp hm
      exact .string _
  words := by
    rintro v labels - -
    refine .object fun m hm ↦ ?_
    obtain ⟨label, -, rfl⟩ := List.mem_map.mp hm
    exact .string _
  map_id _ := rfl
  write_map f labels := by
    simp [labelsToJson, Json.mapDoubles, keep, Function.comp_def]
  reads := by
    rintro v labels w f ⟨members, given, -, -, rfl⟩ hw
    obtain ⟨arranged, members', rfl, hperm, hmembers⟩ := hw.exists_members
    have hlabels : List.Forall₂ (IsMember IsText) members' (Keyed.ofList given) :=
      (List.forall₂_map_left_iff.mp hmembers).flip.imp fun m label hm ↦
        ⟨hm.1.symm, settles_text.reads f rfl hm.2⟩
    obtain ⟨given', hgiven', hsame⟩ := List.perm_comp_forall₂ hperm hlabels
    exact ⟨arranged, given', rfl, hgiven', (Keyed.sorted_ofList given).ofList_eq_of_perm hsame⟩

/-! ## Samples -/

def IsSample (v : Json) (s : Sample) : Prop :=
  ∃ members, HasMembers ["metric", "value", "values"] v members ∧
    Gives IsLabels [] s.labels (under ["metric"] members) ∧
    Gives (IsNullOr IsPoint) none s.value (under ["value"] members) ∧
    Gives (IsList IsPoint) [] s.values (under ["values"] members)

theorem reads_sample : Sample.record.decoder.Reads IsSample := by
  have hmeans := (((Record.means_defaulted reads_labels "metric" [] []).map Sample.mk).seq
    (Record.means_defaulted reads_point.nullable "value" [] none)).seq
    (Record.means_defaulted reads_point.list "values" [] [])
  refine (hmeans.congr ?_).decoder (by decide) (by decide)
  rintro members ⟨labels, value, values⟩
  simp [and_assoc]

theorem Point.toJson_ne_null (p : Point) : p.toJson ≠ .null :=
  nofun

/-- The sample with its points at other times. -/
def Sample.mapDoubles (f : Double → Double) (s : Sample) : Sample :=
  { s with value := s.value.map (.mapDoubles f), values := s.values.map (.mapDoubles f) }

theorem settles_sample : Settles IsSample Sample.toJson Sample.mapDoubles 3 where
  fits := by
    rintro v ⟨labels, value, values⟩ ⟨members, -, hlabels, hvalue, hvalues⟩
    obtain ⟨_, hlabels⟩ := hlabels.exists_value ⟨_, isLabels_nil⟩
    obtain ⟨_, hvalue⟩ := hvalue.exists_value ⟨_, isNullOr_null⟩
    obtain ⟨_, hvalues⟩ := hvalues.exists_value ⟨_, isList_nil⟩
    refine .object (by cases value <;> cases values <;> simp) ?_
    simp only [List.cons_append, List.forall_mem_cons, List.forall_mem_append]
    refine ⟨(settles_labels.fits hlabels).mono (by decide), ?_, ?_⟩
    · cases value with
      | none => simp
      | some p => simpa using (settles_point.fits hvalue.2).mono (by decide)
    · cases values with
      | nil => simp
      | cons p ps => simpa using settles_point.list.fits hvalues
  words := by
    rintro v ⟨labels, value, values⟩ ⟨members, hmembers, hlabels, hvalue, hvalues⟩ hv
    have hwords := hmembers.fitsWords hv
    have hlabels := settles_labels.fitsWords hlabels (.object (by simp)) hwords
    have hvalue := (settles_point.nullable Point.toJson_ne_null).fitsWords hvalue .null hwords
    have hvalues := settles_point.list.fitsWords hvalues (.array (by simp)) hwords
    refine .object ?_
    simp only [List.cons_append, List.forall_mem_cons, List.forall_mem_append]
    refine ⟨hlabels, ?_, ?_⟩
    · cases value with
      | none => simp
      | some p => exact List.forall_mem_singleton.mpr hvalue
    · cases values with
      | nil => simp
      | cons p ps => exact List.forall_mem_singleton.mpr hvalues
  map_id := by
    rintro ⟨labels, value, values⟩
    have hvalue := (settles_point.nullable Point.toJson_ne_null).map_id value
    have hvalues := settles_point.list.map_id values
    exact congrArg₂ (Sample.mk labels) hvalue hvalues
  write_map := by
    rintro f ⟨labels, value, values⟩
    have hlabels : labelsToJson labels = (labelsToJson labels).mapDoubles f :=
      settles_labels.write_map f labels
    have hvalues := settles_point.list.write_map f values
    cases value with
    | none =>
      cases values with
      | nil => exact congrArg (fun l ↦ Json.object [("metric", l)]) hlabels
      | cons p ps =>
        exact congrArg₂ (fun l vs ↦ Json.object [("metric", l), ("values", vs)]) hlabels hvalues
    | some q =>
      let v := (q.mapDoubles f).toJson
      cases values with
      | nil => exact congrArg (fun l ↦ Json.object [("metric", l), ("value", v)]) hlabels
      | cons p ps =>
        exact congrArg₂ (fun l vs ↦ Json.object [("metric", l), ("value", v), ("values", vs)])
          hlabels hvalues
  reads := by
    rintro v ⟨labels, value, values⟩ w f ⟨members, -, hlabels, hvalue, hvalues⟩ hw
    obtain ⟨arranged, _, rfl, -⟩ := hw.exists_members
    refine ⟨arranged, .object arranged, ?_, ?_, ?_⟩
    · exact settles_labels.gives (a := labels) (f := f) (hlabels.exists_value ⟨_, isLabels_nil⟩) hw
        (by cases value <;> cases values <;> rfl)
    · cases value with
      | none =>
        rw [hw.under_eq_nil (by cases values <;> rfl)]
        rfl
      | some p =>
        exact (settles_point.nullable Point.toJson_ne_null).gives
          (hvalue.exists_value ⟨_, isNullOr_null⟩) hw (by cases values <;> rfl)
    · cases values with
      | nil =>
        rw [hw.under_eq_nil (by cases value <;> rfl)]
        rfl
      | cons p ps =>
        exact settles_point.list.gives (hvalues.exists_value ⟨_, isList_nil⟩) hw
          (by cases value <;> rfl)

/-- A value is written just if one was given, and so are values. -/
theorem mem_keys_of_decoder {members : List (String × Json)} {s : Sample}
    (h : Sample.record.decoder.ofJson (.object members) = .ok s) :
    ("value" ∈ s.toJson.keys ↔ ∃ v, ("value", v) ∈ members ∧ v ≠ .null) ∧
      ("values" ∈ s.toJson.keys ↔ ∃ v, ("values", v) ∈ members ∧ v ≠ .array []) := by
  obtain ⟨_, ⟨⟩, -, hvalue, hvalues⟩ := (reads_sample _ s).mp h
  have hgiven := hvalue.ne_absent_iff IsNullOr.ne_none_iff
  have hlisted := hvalues.ne_absent_iff IsList.ne_nil_iff
  simp only [mem_under_iff, List.mem_singleton, exists_eq_left] at hgiven hlisted
  rw [← hgiven, ← hlisted]
  obtain ⟨labels, value, values⟩ := s
  cases value <;> cases values <;> simp [Sample.toJson, keys]

end RuleWatch.Metric
