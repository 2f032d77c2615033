import RuleWatch.Proofs.Api.Listing
import RuleWatch.Proofs.Store.Filter

/-!
# Filters that stand in names

A client that looks for a part of a name, as it is written there, finds what has the name if the
part is without capital letters beyond ASCII: these are made small in the filter but not in the name
(`Server.lists_literal`). A name with such a letter is not found by itself
(`Server.misses_literal`).
-/

namespace RuleWatch

open Api (ListParams)
open Http (Request)
open Listing
open Listing.Pattern (Occurs)
open Store (passes)
open Text (isWideCapital trim)

namespace Server

/-- A row is counted, and is on one of the pages. -/
structure IsListed {ρ : Type} (row : ρ) (size : Nat) (found rows : List ρ) (pages : Nat → List ρ) :
    Prop where
  counted : row ∈ found
  shown : ∃ n, 1 ≤ n ∧ n ≤ rows.length ⌈/⌉ size ∧ row ∈ pages n

/-- All rows that were found are listed. -/
theorem Lists.isListed_iff {φ ρ : Type} [Column φ ρ] {gate : Expression.Gate}
    {server : Server gate} {store : Store} {e : Api.Endpoint} {toJson : ρ → Json}
    {filter : Option String} {order : Order φ} {size : Nat} {found rows : List ρ}
    {pages : Nat → List ρ} {row : ρ}
    (h : server.Lists store e toJson filter order size found rows pages) :
    IsListed row size found rows pages ↔ row ∈ found :=
  ⟨fun hlisted ↦ hlisted.counted, fun hfound ↦
    ⟨hfound, h.dealt.mem_iff.mp (h.perm.mem_iff.mpr hfound)⟩⟩

/-- An analysis result is listed just if the filter, in small letters, occurs in its name with the
letters of ASCII in small letters. Where the filter stands in the name, it is listed if the filter
has no capital letters beyond ASCII, and where the filter is all of the name, only then. -/
theorem lists_literal {gate : Expression.Gate} (server : Server gate) {store : Store}
    {analysis : Analysis} (hkept : analysis ∈ store.analyses.rows)
    (hnul : '\x00' ∉ analysis.ruleName.toList)
    {p : ListParams} {filter : String} (hfilter : p.filter = some filter)
    (hpart : (trim filter).toList <:+: analysis.ruleName.toList)
    (hshort : Text.utf8Length (Pattern.containing (trim filter)) ≤ Pattern.maxBytes)
    (order : Order AnalysisField) {size : Nat} (hpos : 1 ≤ size) (hsize : size ≤ Page.maxSize) :
    let found := store.analyses.rows.filter fun row ↦ passes p.needle row.ruleName
    ∃ rows pages,
      server.Lists store .listAnalyses Analysis.toJson p.needle order size found rows pages ∧
      (IsListed analysis size found rows pages ↔ Occurs (trim filter) analysis.ruleName) ∧
      ((∀ c ∈ (trim filter).toList, isWideCapital c = false) →
        IsListed analysis size found rows pages) ∧
      (trim filter = analysis.ruleName → (IsListed analysis size found rows pages ↔
        ∀ c ∈ analysis.ruleName.toList, isWideCapital c = false)) := by
  intro found
  obtain ⟨rows, pages, hlists⟩ : ∃ rows pages,
      server.Lists store .listAnalyses Analysis.toJson p.needle order size found rows pages := by
    refine exists_lists rfl Analysis.toJson_injective (fun _ ↦ rfl) ?_ server
      (p.isShort_needle hfilter hshort) order hpos hsize
    rintro filter order page world rfl
    rfl
  have hlisted : IsListed analysis size found rows pages ↔
      Occurs (trim filter) analysis.ruleName := by
    have hneedle : '\x00' ∉ (trim filter).toList := fun hmem ↦ hnul (hpart.subset hmem)
    rw [hlists.isListed_iff, List.mem_filter, p.passes_needle hfilter,
      Pattern.contains_iff_occurs hneedle hnul]
    exact and_iff_right hkept
  refine ⟨rows, pages, hlists, hlisted, fun hsmall ↦ ?_, fun hwhole ↦ ?_⟩
  · exact hlisted.mpr (Pattern.occurs_of_infix hpart hsmall)
  · rw [hlisted, hwhole]
    exact Pattern.occurs_self_iff

/-- A small letter beyond ASCII is found where it stands. -/
theorem lists_literal_of_umlaut :
    let server : Server := ⟨0⟩
    let analysis : Analysis := ⟨⟨1, "Last der Kühler", "fault", 1, 5, 5⟩, 1⟩
    let p : ListParams := ⟨some " Kühl", none, none, none, none⟩
    let order : Order AnalysisField := ⟨.id, .ascending⟩
    let store : Store := ⟨.empty, ⟨[analysis], 2⟩⟩
    let found := store.analyses.rows.filter fun row ↦ passes p.needle row.ruleName
    p.needle = some "Kühl" ∧ ∃ rows pages,
      server.Lists store .listAnalyses Analysis.toJson p.needle order 10 found rows pages ∧
      IsListed analysis 10 found rows pages := by
  intro server analysis p order store found
  have hkept : analysis ∈ store.analyses.rows := .head _
  have hnul : '\x00' ∉ analysis.ruleName.toList := by decide +kernel
  have hfilter : p.filter = some " Kühl" := rfl
  have hpart : (trim " Kühl").toList <:+: analysis.ruleName.toList := by decide +kernel
  have hpos : 1 ≤ 10 := by decide
  obtain ⟨rows, pages, hlists, -, hsmall, -⟩ :=
    lists_literal server hkept hnul hfilter hpart (by decide +kernel) order hpos (by decide)
  have hall : (trim " Kühl").toList.all fun c ↦ !isWideCapital c := by decide +kernel
  refine ⟨by decide +kernel, rows, pages, hlists, hsmall fun c hc ↦ ?_⟩
  simpa using List.all_eq_true.mp hall c hc

/-- A capital letter beyond ASCII is not found where it stands. -/
theorem misses_literal :
    let episode : Analysis.Episode := ⟨1, "Ärger", "fault", 1, 5, 5⟩
    let store := (Store.empty.insertAnalysis episode).2
    let order : Order AnalysisField := ⟨.ruleName, .ascending⟩
    let r : Request := ⟨.get, "/api/v1/analysis/result?filter=%C3%84rger", [], []⟩
    let world : World := .fresh 0 Detector.silent fun _ ↦ .replicate drawLength 0
    let server : Server := ⟨0⟩
    let response := ((server.serve r).run { world with store }).1
    store.analyses.rows.map (fun row ↦ row.ruleName) = ["Ärger"] ∧ '\x00' ∉ "Ärger".toList ∧
      trim "Ärger" = "Ärger" ∧
      Text.utf8Length (Pattern.containing (trim "Ärger")) ≤ Pattern.maxBytes ∧
      r.AsksFor .listAnalyses (some "Ärger") order ⟨1, 10⟩ ∧
      store.countAnalyses (some "Ärger") = .ok 0 ∧
      response.status = 200 ∧
      response.body.toBytes = Text.toBytes ("\x7b\"code\":0,\"message\":\"success\","
        ++ "\"trace_id\":\"0000000000000000\",\"data\":\x7b\"records\":[],"
        ++ "\"page_total\":0,\"page_no\":1,\"page_size\":10\x7d\x7d") := by
  intro episode store order r world server response
  refine ⟨by decide +kernel, by decide +kernel, by decide +kernel, by decide +kernel,
    ⟨rfl, by decide +kernel, ?_⟩, by decide +kernel, by decide +kernel, by decide +kernel⟩
  exact ⟨⟨some "Ärger", none, none, none, none⟩, by decide +kernel, by decide +kernel,
    by decide +kernel, by decide +kernel⟩

end Server

end RuleWatch
