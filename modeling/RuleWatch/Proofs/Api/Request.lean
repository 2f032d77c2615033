import RuleWatch.Proofs.Api.Serve
import RuleWatch.Proofs.Rule.Request

/-!
# What a request to change a rule says

Requests to change a rule that say the same in other words lead to the same work, and so to the same
answer and the same store, whatever the store was.
-/

namespace RuleWatch.Server

open Api (Context Endpoint)
open Http (Request)
open Json (Decoder IsObjectOf)
open Relation (ReflTransGen)
open Rule (Changes IsPlain Restates updateRequest)

variable {members : List (String × Json)} {body body' : Bytes}

/-- Of the body matters only what is read of it. -/
theorem respond_updateRule_congr {r : Request} (hpath : r.path = Endpoint.updateRule.path)
    (h : updateRequest.ofBytes body' = updateRequest.ofBytes body) {gate : Expression.Gate}
    (server : Server gate) (trace : String) :
    server.respond trace { r with body := body' } =
      server.respond trace { r with body := body } := by
  have hendpoint : ∀ bytes : Bytes,
      Endpoint.ofPath? { r with body := bytes }.path = some .updateRule := fun _ ↦
    Endpoint.ofPath?_eq_some_iff.mpr hpath
  have hhandle : (server.context trace { r with body := body' }).handle .updateRule =
      (server.context trace { r with body := body }).handle .updateRule := by
    change Context.updateRule _ = Context.updateRule _
    unfold Context.updateRule Context.withBody context
    rw [h]
    rfl
  unfold respond route
  simp only [hendpoint, hhandle]

/-- A request to change a rule is read from the members of its body. It stays the same if members
that say nothing are left out and the id is given as a text, and it asks for what the id alone and
the changes alone say. -/
theorem reads_updateRequest (hbody : IsObjectOf body members)
    (hkeys : (members.map Prod.fst).Nodup) :
    (∀ members' body', ReflTransGen Restates members members' → IsObjectOf body' members' →
      updateRequest.ofBytes body' = updateRequest.ofBytes body ∧
        ∀ (gate : Expression.Gate) (server : Server gate) (trace : String) (r : Request),
          r.path = Endpoint.updateRule.path →
            server.respond trace { r with body := body' } =
              server.respond trace { r with body := body }) ∧
      (∀ id changes, updateRequest.ofBytes body = .ok (id, changes) ↔
        (∃ v, ("id", v) ∈ members ∧ Rule.idDecoder.ofJson v = .ok id) ∧
          Changes.record.decoder.ofJson (.object (Rule.besideId members)) = .ok changes) ∧
      ∀ rest, IsObjectOf rest (Rule.besideId members) →
        Changes.record.decoder.ofBytes rest =
          Changes.record.decoder.ofJson (.object (Rule.besideId members)) := by
  have hplain : IsPlain members := Rule.isPlain_of_isObjectOf hbody hkeys
  have hread := Rule.ofBytes_updateRequest hbody hkeys
  refine ⟨fun members' body' hrestates hbody' ↦ ?_, fun id changes ↦ ?_, fun rest hrest ↦ ?_⟩
  · obtain ⟨hsame, hplain'⟩ := Rule.requestOf_eq_of_restates hrestates hplain
    have hread' := Rule.ofBytes_updateRequest hbody' hplain'.keys
    have heq : updateRequest.ofBytes body' = updateRequest.ofBytes body := by
      rw [hread', hsame, hread]
    exact ⟨heq, fun gate server trace r hpath ↦ respond_updateRule_congr hpath heq server trace⟩
  · rw [hread]
    exact Rule.requestOf_eq_ok_iff hkeys
  · exact Rule.steady_changes.ofBytes_eq hrest

/-- A request with a severity that is null and a threshold that is blank says what one without them
says, and the id may be written with a sign and a zero. -/
theorem reads_updateRequest_of_words :
    let members := [("id", .number (.int 7)), ("severity", .null),
      ("fault_threshold", .string " "), ("name", .string "disk")]
    let body := Text.toBytes <| "\x7b\"id\":7,\"severity\":null,\"fault_threshold\":\" \"," ++
      "\"name\":\"disk\"\x7d"
    let body' := Text.toBytes "\x7b\"id\":\" +07\",\"name\":\"disk\"\x7d"
    IsObjectOf body members ∧ (members.map Prod.fst).Nodup ∧
      updateRequest.ofBytes body' = updateRequest.ofBytes body ∧
      ∃ changes : Changes, changes.name = some "disk" ∧
        updateRequest.ofBytes body = .ok (7, changes) := by
  intro members body body'
  have hbody : IsObjectOf body members :=
    ⟨Json.Outline.ofMembers members, by with_unfolding_all rfl,
      .cons ⟨rfl, rfl⟩ (.cons ⟨rfl, rfl⟩ (.cons ⟨rfl, rfl⟩ (.cons ⟨rfl, rfl⟩ .nil)))⟩
  have hkeys : (members.map Prod.fst).Nodup := by decide
  have hbody' : IsObjectOf body' [("id", .string " +07"), ("name", .string "disk")] :=
    ⟨Json.Outline.ofMembers [("id", .string " +07"), ("name", .string "disk")],
      by with_unfolding_all rfl, .cons ⟨rfl, rfl⟩ (.cons ⟨rfl, rfl⟩ .nil)⟩
  have hspelled : Text.IsTextOf 7 " +07" :=
    ⟨[' '], ['+', '0', '7'], [], rfl, List.forall_mem_singleton.mpr rfl, List.forall_mem_nil _,
      .mk (.plus (by decide)) 1⟩
  have hrestates : ReflTransGen Restates members
      [("id", .string " +07"), ("name", .string "disk")] :=
    .head (@Restates.id [] _ _ _ hspelled) <| .head (@Restates.null [_] _ _ (by decide)) <|
      .single (@Restates.blank [_] _ _ _ (by decide) (by decide))
  obtain ⟨hsame, hasks, -⟩ := reads_updateRequest hbody hkeys
  refine ⟨hbody, hkeys, (hsame _ body' hrestates hbody').1, ?_⟩
  exact ⟨⟨some "disk", none, .none, .none, none, none⟩, rfl,
    (hasks 7 _).mpr ⟨⟨.number (.int 7), .head _, rfl⟩, rfl⟩⟩

end RuleWatch.Server
