import RuleWatch.Proofs.Api.Question

/-!
# What the detector answers is told to the client

A client is told whether the detector could not be reached or did not do what was asked (503), did
it and brought data of another kind (502), or brought what was asked for (200). A list is told item
by item, and with all of its items or not at all.
-/

namespace RuleWatch

open Api (Endpoint Reply)
open Detector (HttpAnswer Query Says)
open Http (Form Request)
open Result

/-! ## Lists -/

theorem forall₂_exists_iff_map {α β γ : Type} {P : α → β → Prop} {f : β → γ} {as : List α}
    {cs : List γ} :
    List.Forall₂ (fun a c ↦ ∃ b, P a b ∧ f b = c) as cs ↔
      ∃ bs, List.Forall₂ P as bs ∧ bs.map f = cs := by
  constructor
  · intro h
    induction h with
    | nil => exact ⟨[], .nil, rfl⟩
    | cons hfirst _ ih =>
      obtain ⟨b, hb, rfl⟩ := hfirst
      obtain ⟨bs, hbs, rfl⟩ := ih
      exact ⟨b :: bs, .cons hb hbs, rfl⟩
  · rintro ⟨bs, hbs, rfl⟩
    rw [List.forall₂_map_right_iff]
    exact hbs.imp fun a b hb ↦ ⟨b, hb, rfl⟩

/-- The data of the query are a list, each item of which is read and told for itself. -/
structure Detector.Query.IsListOf (q : Query Json) (item : Json → Except Json.Fault Json) :
    Prop where
  empty : q.empty = .array []
  decode : ∀ data told, q.decode data = .ok told ↔
    ∃ items records, data = .array items ∧ told = .array records ∧
      List.Forall₂ (fun v record ↦ item v = .ok record) items records

theorem Detector.Query.isListOf_forList {α : Type} (path : String)
    (params : List (String × String)) (d : Json.Decoder α) (f : α → Json) :
    ((forList path params d).map (.ofList f)).IsListOf fun v ↦ f <$> d.ofJson v where
  empty := rfl
  decode data told := by
    change Json.ofList f <$> d.list.ofJson data = .ok told ↔ _
    simp only [map_eq_ok_iff, Json.Decoder.list_eq_ok_iff, forall₂_exists_iff_map]
    constructor
    · rintro ⟨as, ⟨items, rfl, has⟩, rfl⟩
      exact ⟨items, as.map f, rfl, rfl, as, has, rfl⟩
    · rintro ⟨items, records, rfl, rfl, as, has, rfl⟩
      exact ⟨as, ⟨items, rfl, has⟩, rfl⟩

/-- How a record is read and told at an endpoint that lists them. -/
def Api.Endpoint.item? : Endpoint → Option (Json → Except Json.Fault Json)
  | nodeInfo => some fun v ↦ Monitor.NodeInfo.toJson <$> Monitor.NodeInfo.record.decoder.ofJson v
  | nodeStatus => some fun v ↦
    Monitor.NodeStatus.toJson <$> Monitor.NodeStatus.record.decoder.ofJson v
  | nodeResources | nodeContainerStatus | clusterResources | clusterContainerStatus =>
    some fun v ↦ Metric.Sample.toJson <$> Metric.Sample.record.decoder.ofJson v
  | _ => none

theorem Api.Endpoint.isListOf_of_asks? {gate : Expression.Gate} {e : Endpoint} {store : Store}
    {now : Int} {form : Form} {q : Query Json} {item : Json → Except Json.Fault Json}
    (hasked : e.asks? gate store now form = some q) (hitem : e.item? = some item) :
    q.IsListOf item := by
  cases e with
  | nodeInfo | nodeStatus | nodeContainerStatus =>
    simp only [asks?, Option.bind_eq_bind, Option.pure_def, Option.bind_eq_some_iff] at hasked
    obtain ⟨machine, -, hq⟩ := hasked
    cases hitem
    cases hq
    exact Query.isListOf_forList ..
  | nodeResources | clusterResources | clusterContainerStatus =>
    simp only [asks?, Option.bind_eq_bind, Option.pure_def, Option.bind_eq_some_iff] at hasked
    obtain ⟨params, -, _, -, hq⟩ := hasked
    cases hitem
    cases hq
    exact Query.isListOf_forList ..
  | _ => contradiction

/-! ## Replies -/

/-- The reply tells what the body of an answer to a query says. -/
structure Detector.Query.IsTold (q : Query Json) (body : Bytes) (reply : Reply) : Prop where
  unavailable : reply.status = 503 ∧ reply.code = 1502 ↔ ∀ data, ¬ Says body 200 data
  undecodable : reply.status = 502 ∧ reply.code = 1503 ↔
    ∃ data fault, Says body 200 data ∧ data ≠ .null ∧ q.decode data = .error fault
  empty : Says body 200 .null → reply.status = 200 ∧ reply.code = 0 ∧ reply.data = q.empty
  decoded : ∀ data told, Says body 200 data → data ≠ .null → q.decode data = .ok told →
    reply.status = 200 ∧ reply.code = 0 ∧ reply.data = told
  /-- A failure tells no part of the data. -/
  failed : reply.status ≠ 200 → reply.data = .null

namespace Detector.Query

variable {q : Query Json} {body : Bytes} {reply : Reply} {data told : Json}

theorem IsTold.of_unavailable (hnone : ∀ data, ¬ Says body 200 data) (hstatus : reply.status = 503)
    (hcode : reply.code = 1502) (hdata : reply.data = .null) : q.IsTold body reply where
  unavailable := iff_of_true ⟨hstatus, hcode⟩ hnone
  undecodable := iff_of_false (by simp [hstatus]) fun ⟨data, _, htells, _⟩ ↦ hnone data htells
  empty htells := absurd htells (hnone _)
  decoded data _ htells := absurd htells (hnone data)
  failed _ := hdata

theorem IsTold.of_undecodable {fault : Json.Fault} (htells : Says body 200 data)
    (hnull : data ≠ .null) (hdecode : q.decode data = .error fault) (hstatus : reply.status = 502)
    (hcode : reply.code = 1503) (hdata : reply.data = .null) : q.IsTold body reply where
  unavailable := iff_of_false (by simp [hstatus]) fun hnone ↦ hnone data htells
  undecodable := iff_of_true ⟨hstatus, hcode⟩ ⟨data, fault, htells, hnull, hdecode⟩
  empty htells' := absurd (htells.data_eq htells') hnull
  decoded data' told htells' _ hdecode' := by
    rw [← htells.data_eq htells', hdecode] at hdecode'
    contradiction
  failed _ := hdata

theorem IsTold.of_empty (htells : Says body 200 .null) (hstatus : reply.status = 200)
    (hcode : reply.code = 0) (hdata : reply.data = q.empty) : q.IsTold body reply where
  unavailable := iff_of_false (by simp [hstatus]) fun hnone ↦ hnone .null htells
  undecodable := iff_of_false (by simp [hstatus]) fun ⟨data, _, htells', hnull, _⟩ ↦
    hnull (htells'.data_eq htells)
  empty _ := ⟨hstatus, hcode, hdata⟩
  decoded data' _ htells' hnull := absurd (htells'.data_eq htells) hnull
  failed hfailed := absurd hstatus hfailed

theorem IsTold.of_decoded (htells : Says body 200 data) (hnull : data ≠ .null)
    (hdecode : q.decode data = .ok told) (hstatus : reply.status = 200) (hcode : reply.code = 0)
    (hdata : reply.data = told) : q.IsTold body reply where
  unavailable := iff_of_false (by simp [hstatus]) fun hnone ↦ hnone data htells
  undecodable := iff_of_false (by simp [hstatus]) fun ⟨data', fault, htells', _, hdecode'⟩ ↦ by
    rw [← htells.data_eq htells', hdecode] at hdecode'
    contradiction
  empty htells' := absurd (htells.data_eq htells') hnull
  decoded data' told' htells' _ hdecode' := by
    rw [← htells.data_eq htells', hdecode] at hdecode'
    exact ⟨hstatus, hcode, hdata.trans (Except.ok.inj hdecode')⟩
  failed hfailed := absurd hstatus hfailed

/-- What is read of a body is told. -/
theorem Reads.isTold {result : Except Failure Json} (h : q.Reads body result) (trace : String) :
    q.IsTold body (.ofResult trace (result.mapError RuleWatch.Failure.ofDetector)) := by
  cases h with
  | @unavailable failure hnone hfailure =>
    have hreply : Reply.ofResult trace (.error (.ofDetector failure)) =
        .failure .detectorUnavailable trace "detector unavailable" := by
      rw [RuleWatch.Failure.ofDetector, hfailure]
      rfl
    exact .of_unavailable hnone (hreply ▸ rfl) (hreply ▸ rfl) (hreply ▸ rfl)
  | undecodable htells hnull hdecode => exact .of_undecodable htells hnull hdecode rfl rfl rfl
  | empty htells => exact .of_empty htells rfl rfl rfl
  | decoded htells hnull hdecode => exact .of_decoded htells hnull hdecode rfl rfl rfl

end Detector.Query

/-! ## Requests -/

namespace Server

end Server

end RuleWatch
