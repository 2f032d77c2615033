import RuleWatch.Proofs.Store.Listing

/-!
# Walking through the pages of a table

A page begins where its number and its size put it, but it has room for a thousand rows and no more.
So pages of up to a thousand rows lie side by side, and larger ones leave gaps between them: what
lies beyond the thousandth row of a page is on no page at all. Walking through the pages of a table
brings no row twice, and it brings all rows just if the pages or the table have a thousand rows at
most (`Store.walks_pages`).
-/

namespace RuleWatch

open Listing

variable {α : Type} {size : Nat}

/-! ## Gaps -/

namespace Page

theorem eq_of_offset?_eq_some {page : Page} {offset : Nat} (h : page.offset? = some offset) :
    offset = (page.number - 1) * page.size :=
  (Option.some.inj (Option.ite_none_right_eq_some.mp h).2).symm

/-- An earlier page passes over fewer rows. -/
theorem isSome_offset?_of_le {number number' : Nat} (hle : number ≤ number')
    (h : (offset? ⟨number', size⟩).isSome) : (offset? ⟨number, size⟩).isSome := by
  have hbound : ∀ n, (offset? ⟨n, size⟩).isSome ↔ ((n - 1) * size : Nat) ≤ Text.maxInt64 := by
    intro n
    simp [offset?]
  rw [hbound] at h ⊢
  have hrows : (number - 1) * size ≤ (number' - 1) * size :=
    Nat.mul_le_mul_right size (Nat.sub_le_sub_right hle 1)
  exact Int.le_trans (Int.ofNat_le.mpr hrows) h

/-- There are as many rows between two pages as a page is too large. -/
theorem offset_next {number offset next : Nat} (hnumber : 1 ≤ number)
    (hoffset : offset? ⟨number, size⟩ = some offset)
    (hnext : offset? ⟨number + 1, size⟩ = some next) :
    next = offset + limit ⟨number, size⟩ + (size - maxSize) := by
  rw [eq_of_offset?_eq_some hoffset, eq_of_offset?_eq_some hnext]
  have hrow : (number + 1 - 1) * size = (number - 1) * size + size := by
    rw [← Nat.succ_mul, Nat.add_sub_cancel, Nat.succ_eq_add_one, Nat.sub_add_cancel hnumber]
  rw [hrow, limit]
  dsimp only
  omega

/-- The rows at the places that pages of one size have room for. -/
def shown (size : Nat) (rows : List α) : List α :=
  (rows.zipIdx.filter fun row ↦ row.2 % size < maxSize).map Prod.fst

theorem shown_sublist (size : Nat) (rows : List α) : (shown size rows).Sublist rows := by
  have hmap := (List.filter_sublist (p := fun row : α × Nat ↦ row.2 % size < maxSize)
    (l := rows.zipIdx)).map Prod.fst
  rwa [List.zipIdx_map_fst] at hmap

/-- Where no place is beyond the thousandth of its page, all rows are shown. -/
theorem shown_eq_self {rows : List α} (h : ∀ i < rows.length, i % size < maxSize) :
    shown size rows = rows := by
  have hall : rows.zipIdx.filter (fun row ↦ row.2 % size < maxSize) = rows.zipIdx := by
    refine List.filter_eq_self.mpr fun row hrow ↦ decide_eq_true (h _ ?_)
    exact List.snd_lt_of_mem_zipIdx hrow
  rw [shown, hall, List.zipIdx_map_fst]

/-- What comes after some whole pages is shown as if it came first. -/
theorem shown_append {before : List α} {count : Nat} (h : before.length = count * size)
    (after : List α) : shown size (before ++ after) = shown size before ++ shown size after := by
  have hplace : ∀ i, (count * size + i) % size = i % size := fun i ↦ by
    rw [Nat.mul_comm, Nat.mul_add_mod]
  have hafter : ((after.zipIdx (count * size)).filter fun row ↦ row.2 % size < maxSize).map
      Prod.fst = shown size after := by
    rw [List.zipIdx_eq_map_add, List.filter_map, List.map_map, shown]
    simp only [Function.comp_def, hplace]
  rw [shown, List.zipIdx_append, List.filter_append, List.map_append, Nat.zero_add, h, hafter]
  rfl

/-- A single page has room for a thousand rows. -/
theorem shown_of_length_le {rows : List α} (h : rows.length ≤ size) :
    shown size rows = rows.take maxSize := by
  have hplace : ∀ i < rows.length, i % size = i := fun i hi ↦
    Nat.mod_eq_of_lt (Nat.lt_of_lt_of_le hi h)
  rcases Nat.le_total rows.length maxSize with hle | hge
  · rw [List.take_of_length_le hle]
    refine shown_eq_self fun i hi ↦ ?_
    rw [hplace i hi]
    exact Nat.lt_of_lt_of_le hi hle
  · have hfirst : (rows.take maxSize).length = maxSize := List.length_take_of_le hge
    have hshown : (rows.take maxSize).zipIdx.filter (fun row ↦ row.2 % size < maxSize) =
        (rows.take maxSize).zipIdx := by
      refine List.filter_eq_self.mpr fun row hrow ↦ decide_eq_true ?_
      have hlt := List.snd_lt_of_mem_zipIdx hrow
      rw [hfirst] at hlt
      rwa [hplace _ (Nat.lt_of_lt_of_le hlt hge)]
    have hhidden : ((rows.drop maxSize).zipIdx maxSize).filter
        (fun row ↦ row.2 % size < maxSize) = [] := by
      refine List.filter_eq_nil_iff.mpr fun row hrow ↦ ?_
      have hlt := List.snd_lt_add_of_mem_zipIdx hrow
      rw [List.length_drop] at hlt
      rw [decide_eq_true_iff, hplace _ (by omega), Nat.not_lt]
      exact List.le_snd_of_mem_zipIdx hrow
    calc shown size rows
        = shown size (rows.take maxSize ++ rows.drop maxSize) := by rw [List.take_append_drop]
      _ = rows.take maxSize := by
        rw [shown, List.zipIdx_append, List.filter_append, hshown, Nat.zero_add, hfirst, hhidden,
          List.append_nil, List.zipIdx_map_fst]

end Page

/-! ## Walks -/

namespace Store

/-- The rows on the first pages of a listing, one page after another. -/
def walk (listing : Page → Except Failure (List α × Nat)) (size : Nat) :
    Nat → Except Failure (List α)
  | 0 => .ok []
  | count + 1 => do
    let before ← walk listing size count
    let (rows, _) ← listing ⟨count + 1, size⟩
    return before ++ rows

/-- A walk through the pages of some rows brings those for which the pages have room. -/
theorem walk_eq {listing : Page → Except Failure (List α × Nat)} {rows : List α}
    (hlisting : ∀ (page : Page) (offset : Nat), page.offset? = some offset →
      listing page = .ok (page.window offset rows, rows.length))
    {count : Nat} (hcount : (Page.offset? ⟨count, size⟩).isSome) :
    walk listing size count = .ok (Page.shown size (rows.take (count * size))) := by
  induction count with
  | zero => simp [walk, Page.shown]
  | succ count ih =>
    obtain ⟨offset, hoffset⟩ := Option.isSome_iff_exists.mp hcount
    have hbefore := ih (Page.isSome_offset?_of_le (Nat.le_succ count) hcount)
    have hbegin : offset = count * size := Page.eq_of_offset?_eq_some hoffset
    -- the rows that belong to the page, of which it has room for the first thousand
    have hpage : Page.window ⟨count + 1, size⟩ offset rows =
        Page.shown size ((rows.drop (count * size)).take size) := by
      rw [Page.shown_of_length_le (List.length_take_le ..), List.take_take, Page.window, Page.limit,
        hbegin, Nat.min_comm]
    have hrows : Page.shown size (rows.take ((count + 1) * size)) =
        Page.shown size (rows.take (count * size)) ++
          Page.shown size ((rows.drop (count * size)).take size) := by
      rw [Nat.succ_mul, List.take_add]
      rcases Nat.le_total (count * size) rows.length with hle | hge
      · exact Page.shown_append (List.length_take_of_le hle) _
      · rw [List.drop_eq_nil_of_le hge, List.take_nil, List.append_nil]
        exact (List.append_nil _).symm
    rw [walk, hbefore, hrows, ← hpage]
    change (listing ⟨count + 1, size⟩ >>= fun row ↦ pure _) = _
    rw [hlisting _ _ hoffset]
    rfl

variable {φ ρ : Type} [Column φ ρ]

/-- The rows that were found are walked through in an order, with pages of one size. -/
structure Walks (listing : Page → Except Failure (List ρ × Nat)) (order : Order φ) (size : Nat)
    (found rows : List ρ) : Prop where
  /-- The rows are those that were found, each of them once. -/
  perm : rows.Perm found
  ordered : rows.Pairwise order.Precedes
  /-- A page that can be counted is given, with the number of all rows. -/
  listing_eq : ∀ (page : Page) (offset : Nat), page.offset? = some offset →
    listing page = .ok (page.window offset rows, found.length)
  /-- A walk brings the rows at the places that the pages have room for. -/
  walk_eq : ∀ count, (Page.offset? ⟨count, size⟩).isSome →
    walk listing size count = .ok (Page.shown size (rows.take (count * size)))
  /-- No row comes twice. -/
  sublist : ∀ count seen, (Page.offset? ⟨count, size⟩).isSome →
    walk listing size count = .ok seen → seen.Sublist rows
  /-- No row is left out just if the pages or the rows are a thousand at most. -/
  complete_iff : (∀ count, (Page.offset? ⟨count, size⟩).isSome →
      walk listing size count = .ok (rows.take (count * size))) ↔
    size ≤ Page.maxSize ∨ rows.length ≤ Page.maxSize

/-- The rows that pass a filter are walked through in any order. -/
theorem exists_walks {name : ρ → String} {filter : Option String} {kept found : List ρ}
    (hfound : matching name filter kept = .ok found) (hpos : 1 ≤ size) (order : Order φ) :
    ∃ rows, Walks (fun page ↦ list name filter order page kept) order size found rows := by
  have hlength : (order.sort found).length = found.length := (order.sort_perm found).length_eq
  have hlisting : ∀ (page : Page) (offset : Nat), page.offset? = some offset →
      list name filter order page kept =
        .ok (page.window offset (order.sort found), found.length) := by
    intro page offset hoffset
    rw [list, hoffset, hfound]
    rfl
  have hwalk : ∀ count, (Page.offset? ⟨count, size⟩).isSome →
      walk (fun page ↦ list name filter order page kept) size count =
        .ok (Page.shown size ((order.sort found).take (count * size))) :=
    fun count hcount ↦ walk_eq (by rwa [hlength]) hcount
  refine ⟨order.sort found, ?_⟩
  constructor
  case perm => exact order.sort_perm found
  case ordered => exact order.pairwise_sort found
  case listing_eq => exact hlisting
  case walk_eq => exact hwalk
  case sublist =>
    intro count seen hcount hseen
    obtain rfl := Except.ok.inj ((hwalk count hcount).symm.trans hseen)
    exact (Page.shown_sublist size _).trans (List.take_sublist ..)
  case complete_iff =>
    constructor
    · intro hall
      by_contra hlarge
      obtain ⟨hsize, hrows⟩ := not_or.mp hlarge
      have hfirst : (Page.offset? ⟨1, size⟩).isSome := by simp [Page.offset?, Text.maxInt64]
      have hshown := Except.ok.inj ((hwalk 1 hfirst).symm.trans (hall 1 hfirst))
      rw [Nat.one_mul, Page.shown_of_length_le (List.length_take_le ..)] at hshown
      have hcut := congrArg List.length hshown
      simp only [List.length_take] at hcut
      omega
    · intro hsmall count hcount
      rw [hwalk count hcount, Page.shown_eq_self fun i hi ↦ ?_]
      rw [List.length_take] at hi
      rcases hsmall with hsize | hrows
      · exact Nat.lt_of_lt_of_le (Nat.mod_lt i hpos) hsize
      · exact Nat.lt_of_le_of_lt (Nat.mod_le i size) (by omega)

/-- Two pages that follow each other lie side by side just if they have a thousand rows at most, and
otherwise there is a gap between them. Whatever is kept, and whatever is looked for in it: a walk
through the pages of a listing brings no row twice, and it leaves none out just if it has no gaps to
pass. -/
theorem walks_pages (store : Store) (filter : Option String) (hpos : 1 ≤ size) :
    (∀ number offset next, 1 ≤ number → Page.offset? ⟨number, size⟩ = some offset →
      Page.offset? ⟨number + 1, size⟩ = some next →
        next = offset + Page.limit ⟨number, size⟩ + (size - Page.maxSize) ∧
        (offset + Page.limit ⟨number, size⟩ = next ↔ size ≤ Page.maxSize)) ∧
    (∀ found, matching (fun rule : Rule ↦ rule.name) filter store.rules.rows = .ok found →
      ∀ order : Order RuleField, ∃ rows,
        Walks (store.listRules filter order) order size found rows) ∧
    ∀ found, matching (fun analysis : Analysis ↦ analysis.ruleName) filter store.analyses.rows =
        .ok found →
      ∀ order : Order AnalysisField, ∃ rows,
        Walks (store.listAnalyses filter order) order size found rows := by
  refine ⟨fun number offset next hnumber hoffset hnext ↦ ?_,
    fun found hfound ↦ exists_walks hfound hpos, fun found hfound ↦ exists_walks hfound hpos⟩
  have hgap := Page.offset_next hnumber hoffset hnext
  exact ⟨hgap, by omega⟩

/-- Three rules are walked through two by two, from the last to the first. -/
theorem walks_pages_of_three :
    let rule (id : Int) (name : String) : Rule :=
      ⟨⟨name, "up", .none, .none, "error", "5m"⟩, id, 0, 0⟩
    let store : Store := ⟨⟨[rule 1 "a", rule 2 "b", rule 3 "c"], 3⟩, .empty⟩
    let order : Order RuleField := ⟨.name, .descending⟩
    1 ≤ 2 ∧ ∃ rows, Walks (store.listRules none order) order 2 store.rules.rows rows ∧
      walk (store.listRules none order) 2 2 = .ok rows := by
  intro rule store order
  have hpos : 1 ≤ 2 := by decide
  obtain ⟨rows, hwalks⟩ := (walks_pages store none hpos).2.1 store.rules.rows rfl order
  have hall := hwalks.complete_iff.mpr (.inl (by decide)) 2 (by decide)
  rw [List.take_of_length_le (by rw [hwalks.perm.length_eq]; decide)] at hall
  exact ⟨hpos, rows, hwalks, hall⟩

/-- Without a filter all results are counted. -/
theorem countAnalyses_none (store : Store) :
    store.countAnalyses none = .ok store.analyses.rows.length := rfl

/-- A thousand analysis results and one more. -/
def crowdedResults : List Analysis :=
  (List.range 1001).map fun i : Nat ↦
    { ruleId := 1, ruleName := "disk", status := "fault", count := 1, createdAt := 0,
      updatedAt := 0, id := i + 1 }

theorem length_crowdedResults : crowdedResults.length = 1001 := by
  rw [crowdedResults, List.length_map, List.length_range]

/-- Of a thousand rows and one more, the last one falls into the gap between two pages that are too
large by one. -/
theorem walk_misses_row :
    let store : Store := ⟨.empty, crowdedResults, 1001⟩
    let order : Order AnalysisField := ⟨.id, .ascending⟩
    let listing := store.listAnalyses none order
    Page.offset? ⟨1, 1001⟩ = some 0 ∧ Page.offset? ⟨2, 1001⟩ = some 1001 ∧
      0 + Page.limit ⟨1, 1001⟩ ≠ 1001 ∧ store.countAnalyses none = .ok 1001 ∧
      ∃ seen, walk listing 1001 2 = .ok seen ∧ seen.length = 1000 := by
  intro store order listing
  have hkept : store.analyses.rows.length = 1001 := by
    rw [length_crowdedResults]
  have hcount : store.countAnalyses none = .ok 1001 := by
    rw [countAnalyses_none, hkept]
  refine ⟨by decide, by decide, by decide, hcount, ?_⟩
  obtain ⟨rows, hwalks⟩ : ∃ rows, Walks listing order 1001 store.analyses.rows rows :=
    exists_walks rfl (by decide) order
  have hsecond : (Page.offset? ⟨2, 1001⟩).isSome := by decide
  refine ⟨_, hwalks.walk_eq 2 hsecond, ?_⟩
  have hrows : rows.length = 1001 := hwalks.perm.length_eq.trans hkept
  rw [List.take_of_length_le (by omega), Page.shown_of_length_le (by omega), List.length_take,
    hrows]
  rfl

end Store

end RuleWatch
