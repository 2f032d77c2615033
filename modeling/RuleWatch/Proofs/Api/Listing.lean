import RuleWatch.Proofs.Api.Reach
import RuleWatch.Proofs.Store.Listing

/-!
# Listings page by page

A client that asks for the pages of a listing one after another, with one filter, one order and one
page size, gets all rows that pass the filter, in that order and each of them once, as long as the
store stays as it is. Each answer tells how many they are.
-/

namespace RuleWatch

open Api (Context Endpoint ListParams Reply)
open Http (Form Request)
open Listing
open Store (IsShort passes)

/-! ## Records -/

theorem Json.ofOption_injective {α : Type} {f : α → Json} (hf : Function.Injective f)
    (hnull : ∀ a, f a ≠ .null) : Function.Injective (ofOption f) := by
  rintro (_ | a) (_ | b) h
  · rfl
  · exact absurd h.symm (hnull b)
  · exact absurd h (hnull a)
  · exact congrArg some (hf h)

/-- A rule is told with all that is kept of it. -/
theorem Rule.toJson_injective : Function.Injective toJson := by
  intro rule rule' h
  have hkind : Function.Injective (Json.ofOption Json.string) :=
    Json.ofOption_injective (fun _ _ h ↦ Json.string.inj h) fun _ h ↦ by contradiction
  have hthreshold : Function.Injective (Json.ofOption Json.ofDouble) :=
    Json.ofOption_injective (fun _ _ h ↦ Json.Number.double.inj (Json.number.inj h))
      fun _ h ↦ by contradiction
  obtain ⟨⟨name, expression, ⟨kind, threshold⟩, ⟨kind', threshold'⟩, severity, duration⟩, id,
    createdAt, updatedAt⟩ := rule
  simp only [toJson, conditionMembers, Json.ofInt, List.cons_append, List.nil_append,
    Json.object.injEq, List.cons.injEq, Prod.mk.injEq, Json.string.injEq, Json.number.injEq,
    Json.Number.int.injEq, hkind.eq_iff, hthreshold.eq_iff, true_and, and_true] at h
  obtain ⟨rfl, rfl, rfl, rfl, rfl, rfl, rfl, rfl, rfl, rfl, rfl⟩ := h
  rfl

theorem Analysis.toJson_injective : Function.Injective toJson := by
  intro analysis analysis' h
  obtain ⟨⟨_, _, _, _, _, _⟩, _⟩ := analysis
  simp only [toJson, Json.ofInt, Json.object.injEq, List.cons.injEq, Prod.mk.injEq,
    Json.string.injEq, Json.number.injEq, Json.Number.int.injEq, true_and, and_true] at h
  obtain ⟨rfl, rfl, rfl, rfl, rfl, rfl, rfl⟩ := h
  rfl

/-! ## Handlers -/

namespace Api.Context

variable {φ ρ : Type} [Column φ ρ] {gate : Expression.Gate} {ctx : Context gate}
  {params : ListParams} {order : Order φ} {page : Page} {toJson : ρ → Json}
  {work : Option String → Order φ → Page → Attempt (List ρ × Nat)} {name : ρ → String}
  {rows : List ρ} {world : World}

/-- A page that can be given is given, with the number of all rows that pass the filter. -/
theorem run_listRows (ctx : Context gate)
    (hparams : Params.list (Form.ofText ctx.request.formText) = .ok params)
    (horder : params.order φ = .ok order) (hasked : params.asked = page) (hvalid : page.IsValid)
    (hfilter : IsShort params.needle)
    (hwork : ((work params.needle order page).run.run world).1 =
      (Store.list name params.needle order page rows).mapError Failure.ofStore) :
    let found := rows.filter fun row ↦ passes params.needle (name row)
    ((ctx.listRows toJson work).run world).1 = respond (.success ctx.trace <|
      Reply.pageData ((page.rowsOf (order.sort found)).map toJson) found.length page) := by
  subst hasked
  obtain ⟨-, hpage⟩ | ⟨hinvalid, -⟩ := params.page_cases
  · simp only [listRows, withForm, hparams, hpage, horder]
    rw [answerPage, (ctx.run_answer _ _).1, Work.run_bind_run, hwork, Store.list_eq hvalid hfilter]
    rfl
  · contradiction

/-- A page that cannot be given is refused. -/
theorem run_listRows_of_not_isValid (ctx : Context gate)
    (hparams : Params.list (Form.ofText ctx.request.formText) = .ok params)
    (hasked : params.asked = page) (hinvalid : ¬ page.IsValid) :
    ((ctx.listRows toJson work).run world).1.status = 400 := by
  subst hasked
  obtain ⟨hvalid, -⟩ | ⟨-, fault, hpage⟩ := params.page_cases
  · contradiction
  · simp only [listRows, withForm, hparams, hpage]
    rfl

end Api.Context

/-! ## Requests -/

/-- The request asks an endpoint for one page of a listing. -/
structure Http.Request.AsksFor {φ ρ : Type} [Column φ ρ] (r : Request) (e : Endpoint)
    (filter : Option String) (order : Order φ) (page : Page) : Prop where
  method : r.method = .get
  path : r.path = e.path
  exists_params : ∃ params, Api.Params.list (Form.ofText r.formText) = .ok params ∧
    params.needle = filter ∧ params.order φ = .ok order ∧ params.asked = page

namespace Server

variable {gate : Expression.Gate}

/-- An endpoint lists the rows that were found, in an order and in pages of one size, as long as the
store stays as it is. -/
structure Lists {φ ρ : Type} [Column φ ρ] (server : Server gate) (store : Store) (e : Endpoint)
    (toJson : ρ → Json) (filter : Option String) (order : Order φ) (size : Nat) (found : List ρ)
    (rows : List ρ) (pages : Nat → List ρ) : Prop where
  /-- The rows are those that were found, each of them once. -/
  perm : rows.Perm found
  ordered : rows.Pairwise order.Precedes
  dealt : Dealt size rows pages
  /-- A record tells all of its row. -/
  complete : Function.Injective toJson
  /-- A page that can be given is given: its rows, the number of all rows that were found, and the
  page that was asked for. -/
  given : ∀ n r world, world.store = store → r.AsksFor e filter order ⟨n, size⟩ →
    Page.IsValid ⟨n, size⟩ → ∃ reply : Reply, ((server.serve r).run world).1.Carries reply ∧
      reply.status = 200 ∧ reply.code = 0 ∧
      reply.data = .object [("records", .array ((pages n).map toJson)),
        ("page_total", .ofNat found.length), ("page_no", .ofNat n), ("page_size", .ofNat size)]
  /-- A page that cannot be given is refused. -/
  refused : ∀ n r world, world.store = store → r.AsksFor e filter order ⟨n, size⟩ →
    ¬ Page.IsValid ⟨n, size⟩ → ((server.serve r).run world).1.status = 400
  /-- All pages up to the last can be given, unless there are more rows than a database can
  count. -/
  valid : (found.length : Int) ≤ Text.maxInt64 → ∀ n, 1 ≤ n → n ≤ rows.length ⌈/⌉ size →
    Page.IsValid ⟨n, size⟩

/-- An endpoint whose handler lists the rows of a table lists those that pass the filter. -/
theorem exists_lists {φ ρ : Type} [Column φ ρ] {e : Endpoint} (he : e.isMutation = false)
    {toJson : ρ → Json} (hjson : Function.Injective toJson)
    {work : Option String → Order φ → Page → Attempt (List ρ × Nat)}
    (hhandle : ∀ ctx : Context gate, ctx.handle e = ctx.listRows toJson work)
    {name : ρ → String} {kept : List ρ} {store : Store}
    (hwork : ∀ filter order page world, world.store = store →
      ((work filter order page).run.run world).1 =
        (Store.list name filter order page kept).mapError Failure.ofStore)
    (server : Server gate) {filter : Option String} (hfilter : IsShort filter) (order : Order φ)
    {size : Nat} (hpos : 1 ≤ size) (hsize : size ≤ Page.maxSize) :
    let found := kept.filter fun row ↦ passes filter (name row)
    ∃ rows pages, server.Lists store e toJson filter order size found rows pages := by
  intro found
  have hlength : (order.sort found).length = found.length := (order.sort_perm found).length_eq
  refine ⟨order.sort found, fun n ↦ Page.rowsOf ⟨n, size⟩ (order.sort found), ?_⟩
  constructor
  case perm => exact order.sort_perm found
  case ordered => exact order.pairwise_sort found
  case dealt => exact Page.dealt_rowsOf hpos hsize _
  case complete => exact hjson
  case given =>
    rintro n r world hworld ⟨hmethod, hpath, params, hparams, rfl, horder, hasked⟩ hvalid
    obtain ⟨trace, before, hbefore, hstatus, hbody, -⟩ :=
      exists_run_serve_get server he hmethod hpath world
    let ctx := server.context trace r
    have hlisted := hwork params.needle order ⟨n, size⟩ before (hbefore.store.trans hworld)
    rw [hhandle, Context.run_listRows ctx hparams horder hasked hvalid hfilter hlisted]
      at hstatus hbody
    exact ⟨_, ⟨hstatus, hbody⟩, rfl, rfl, rfl⟩
  case refused =>
    rintro n r world hworld ⟨hmethod, hpath, params, hparams, -, -, hasked⟩ hinvalid
    obtain ⟨trace, before, hbefore, hstatus, -⟩ :=
      exists_run_serve_get server he hmethod hpath world
    rw [hstatus, hhandle]
    exact Context.run_listRows_of_not_isValid (server.context trace r) hparams hasked hinvalid
  case valid =>
    intro htotal n hn hle
    rw [hlength] at hle
    exact Page.isValid_of_le_ceilDiv hpos hsize htotal hn hle

end Server

namespace Disks

/-- A rule on the usage of something. -/
def usage (name : String) : Rule.Draft :=
  ⟨name, "usage", Condition.none, ⟨some "gt", some (.ofInt 80)⟩, "error", "5m"⟩

/-- Four rules, three of them on disks. -/
def store : Store :=
  ["disk a", "cpu", "Disk b", "disk c"].foldl (fun store name ↦ (store.insertRule (usage name) 0).2)
    .empty

/-- The second page of the rules on disks, which has room for two. -/
def request : Request :=
  { method := .get
    target := "/api/v1/rules?filter=disk&sort_field=severity&sort_order=desc&page_no=2&page_size=2"
    headers := []
    body := [] }

end Disks

end RuleWatch
