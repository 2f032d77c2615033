import RuleWatch.Api.ListParams
import RuleWatch.Proofs.Rule.Name
import RuleWatch.Proofs.Store.Listing

/-!
# Filters of listings

A client's filter is looked for without the blanks around it, in all names and in the same way for
the rows of a page and for their number. What it selects are the names that it occurs in
(`finds_occurrences`). The database takes U+FFFE and U+FFFF for the replacement character, so that
the three of them find each other (`finds_noncharacter`).
-/

namespace RuleWatch

open Api (ListParams)
open Listing
open Listing.Pattern (Occurs asRead isSpecial)
open Text (lowercase replacement trim)

/-! ## Filters and names -/

/-- Names are made of characters between the digits and the small letters. -/
theorem Rule.toNat_of_isName {name : String} (h : isName name) {c : Char} (hc : c ∈ name.toList) :
    48 ≤ c.toNat ∧ c.toNat ≤ 122 :=
  ((isName_iff_isWord.mp h).2.2 c hc).toNat_le

/-- The characters of names are not blank, whatever the case. -/
theorem Rule.isBlank_of_isName {name : String} (h : isName name) {c d : Char}
    (hc : c ∈ name.toList) (hd : d.toLower = c.toLower) : Text.isBlank d = false := by
  obtain ⟨hlow, hhigh⟩ := toNat_of_isName h hc
  have hsmallC := Text.toNat_toLower c
  have hsmallD := Text.toNat_toLower d
  rw [hd] at hsmallD
  have hrange : 48 ≤ d.toNat ∧ d.toNat ≤ 122 := by
    split at hsmallC <;> split at hsmallD <;> omega
  simp only [Text.isBlank, Bool.or_eq_false_iff, Bool.and_eq_false_iff, decide_eq_false_iff_not,
    beq_eq_false_iff_ne]
  omega

namespace Listing.Pattern

variable {filter : String}

/-- A client's filter is looked for as it is, but for the blanks around it. -/
structure FindsOccurrences (filter : String) : Prop where
  /-- A name matches just if the filter occurs in it. -/
  contains_iff : ∀ name : String, '\x00' ∉ name.toList →
    (contains (trim filter) name ↔ Occurs (trim filter) name)
  /-- Small letters are looked for among small letters, unless characters are read alike. -/
  infix_iff : (∀ c ∈ (lowercase (trim filter)).toList, asRead c ≠ replacement) → ∀ name : String,
    (Occurs (trim filter) name ↔
      (lowercase (trim filter)).toList <:+: name.toList.map Char.toLower)
  /-- Characters with a meaning in patterns are found where they stand, and nowhere else. -/
  special : ∀ name : String, Occurs (trim filter) name → ∃ found, found <:+: name.toList ∧
    found.length = (lowercase (trim filter)).toList.length ∧
    ∀ (i : Nat) (c : Char), (lowercase (trim filter)).toList[i]? = some c → isSpecial c →
      found[i]? = some c
  /-- What stands in the name of a rule is found there, in whatever case. -/
  name : ∀ (name : String) (part : List Char), Rule.isName name → part <:+: name.toList →
    filter.toList.map Char.toLower = part.map Char.toLower → Occurs (trim filter) name
  /-- A blank filter is found in all names. -/
  blank : Text.isBlankText filter → ∀ name : String, Occurs (trim filter) name

theorem findsOccurrences (hnul : '\x00' ∉ filter.toList) : FindsOccurrences filter where
  contains_iff name hname := by
    have htrim : '\x00' ∉ (trim filter).toList := by
      rw [trim, String.toList_ofList]
      exact fun hmem ↦ hnul (Text.mem_of_mem_trimList hmem)
    exact contains_iff_occurs htrim hname
  infix_iff h _ := occurs_iff_infix h
  special _ h := h.exists_found
  name name part hvalid hpart hcase := by
    have hplain : trim filter = filter := Text.trim_eq_self fun d hd ↦ by
      obtain ⟨c, hc, heq⟩ := List.mem_map.mp (hcase ▸ List.mem_map_of_mem hd)
      exact Rule.isBlank_of_isName hvalid (hpart.subset hc) heq.symm
    rw [hplain]
    refine occurs_of_ascii (fun c hc ↦ ?_) hpart hcase
    have := Rule.toNat_of_isName hvalid (hpart.subset hc)
    omega
  blank h name := by
    rw [Text.trim_of_isBlankText h]
    exact occurs_empty name

end Listing.Pattern

namespace Store

variable {store : Store} {filter : Option String} {selected : String → Bool}

/-- A listing gives the rows whose names are selected, page by page, and counts the same rows. -/
structure Selects (store : Store) (filter : Option String) (selected : String → Bool) : Prop where
  listRules : ∀ (order : Order RuleField) (page : Page), page.IsValid →
    let found := store.rules.rows.filter fun rule ↦ selected rule.name
    store.listRules filter order page = .ok (page.rowsOf (order.sort found), found.length)
  countRules : store.countRules filter =
    .ok (store.rules.rows.filter fun rule ↦ selected rule.name).length
  listAnalyses : ∀ (order : Order AnalysisField) (page : Page), page.IsValid →
    let found := store.analyses.rows.filter fun analysis ↦ selected analysis.ruleName
    store.listAnalyses filter order page = .ok (page.rowsOf (order.sort found), found.length)
  countAnalyses : store.countAnalyses filter =
    .ok (store.analyses.rows.filter fun analysis ↦ selected analysis.ruleName).length

/-- The names that pass a filter are selected. -/
theorem selects_of_passes (hshort : IsShort filter)
    (hrules : ∀ rule ∈ store.rules.rows, passes filter rule.name = selected rule.name)
    (hanalyses : ∀ analysis ∈ store.analyses.rows,
      passes filter analysis.ruleName = selected analysis.ruleName) :
    store.Selects filter selected where
  listRules order page hvalid := by
    rw [listRules, list_eq hvalid hshort, List.filter_congr hrules]
  countRules := by
    rw [countRules, matching_eq hshort, List.filter_congr hrules]
    rfl
  listAnalyses order page hvalid := by
    rw [listAnalyses, list_eq hvalid hshort, List.filter_congr hanalyses]
  countAnalyses := by
    rw [countAnalyses, matching_eq hshort, List.filter_congr hanalyses]
    rfl

end Store

/-! ## The filter of a client -/

variable {p : ListParams} {filter : String}

/-- A client's filter is passed by the names that contain it without the blanks around it. -/
theorem Api.ListParams.passes_needle (h : p.filter = some filter) (name : String) :
    Store.passes p.needle name = Pattern.contains (trim filter) name := by
  rw [needle, presentText, h, Option.map_some, Option.filter_some]
  split
  next => rw [Store.passes, Option.all_some]
  next hempty =>
    have hnil : trim filter = "" := by simpa using hempty
    rw [Store.passes, Option.all_none, hnil, Pattern.contains_empty]

theorem Api.ListParams.isShort_needle (h : p.filter = some filter)
    (hshort : Text.utf8Length (Pattern.containing (trim filter)) ≤ Pattern.maxBytes) :
    Store.IsShort p.needle := by
  intro needle hmem
  rw [ListParams.needle, presentText, h, Option.map_some] at hmem
  obtain rfl := Option.some.inj (Option.mem_filter_iff.mp hmem).1
  exact hshort

/-- A filter that a database takes selects the names that it occurs in, from rules and analysis
results, for a page and for the number of all rows alike. -/
theorem finds_occurrences (hfilter : p.filter = some filter) (hnul : '\x00' ∉ filter.toList)
    (hshort : Text.utf8Length (Pattern.containing (trim filter)) ≤ Pattern.maxBytes) {store : Store}
    (hrules : ∀ rule ∈ store.rules.rows, '\x00' ∉ rule.name.toList)
    (hanalyses : ∀ analysis ∈ store.analyses.rows, '\x00' ∉ analysis.ruleName.toList) :
    Pattern.FindsOccurrences filter ∧
      store.Selects p.needle fun name ↦ decide (Occurs (trim filter) name) := by
  have hfinds := Pattern.findsOccurrences hnul
  have hpasses {name : String} (hname : '\x00' ∉ name.toList) :
      Store.passes p.needle name = decide (Occurs (trim filter) name) := by
    rw [p.passes_needle hfilter, Bool.eq_iff_iff, hfinds.contains_iff name hname,
      decide_eq_true_iff]
  refine ⟨hfinds, Store.selects_of_passes (p.isShort_needle hfilter hshort) ?_ ?_⟩
  · exact fun rule hrule ↦ hpasses (hrules rule hrule)
  · exact fun analysis hanalysis ↦ hpasses (hanalyses analysis hanalysis)

/-- An underscore is looked for as it is, in either case and without the blanks around it. -/
theorem finds_occurrences_of_underscore :
    let filter := " K_"
    let p : ListParams := ⟨some filter, none, none, none, none⟩
    let rule (id : Int) (name : String) : Rule :=
      ⟨⟨name, "up", .none, .none, "error", "5m"⟩, id, 0, 0⟩
    let store : Store := ⟨⟨[rule 1 "disk_usage", rule 2 "disks"], 2⟩, .empty⟩
    Occurs (trim filter) "disk_usage" ∧ ¬ Occurs (trim filter) "disks" ∧
      Pattern.FindsOccurrences filter ∧
      store.Selects p.needle fun name ↦ decide (Occurs (trim filter) name) := by
  intro filter p rule store
  refine ⟨by decide +kernel, by decide +kernel, ?_⟩
  exact finds_occurrences rfl (by decide +kernel) (by decide +kernel) (by decide +kernel)
    (by decide +kernel)

/-- Characters that stand for nothing find each other, since they are read alike. -/
theorem finds_noncharacter :
    '\x00' ∉ "\uFFFE".toList ∧ '\x00' ∉ "\uFFFF".toList ∧
      Text.utf8Length (Pattern.containing (trim "\uFFFE")) ≤ Pattern.maxBytes ∧
      Pattern.contains (trim "\uFFFE") "\uFFFF" ∧
      ¬ (lowercase (trim "\uFFFE")).toList <:+: "\uFFFF".toList.map Char.toLower := by
  decide +kernel

end RuleWatch
