import Mathlib.Algebra.Order.Floor.Div
import RuleWatch.Api.ListParams

/-!
# Rows dealt out in pages

Pages are looked up one by one, each from where it begins. Together they give all rows, one after
another: each page but the last is full, and those after the last are empty.
-/

namespace RuleWatch

variable {α : Type}

/-- The rows are dealt out in pages of one size. -/
structure Dealt (size : Nat) (rows : List α) (pages : Nat → List α) : Prop where
  /-- The pages one after another are the rows. -/
  flatMap_eq : (List.range' 1 (rows.length ⌈/⌉ size)).flatMap pages = rows
  /-- Each page before the last is full. -/
  full : ∀ n, 1 ≤ n → n < rows.length ⌈/⌉ size → (pages n).length = size
  /-- There is nothing after the last page. -/
  beyond : ∀ n, rows.length ⌈/⌉ size < n → pages n = []

/-- A row is on one of the pages. -/
theorem Dealt.mem_iff {size : Nat} {rows : List α} {pages : Nat → List α}
    (h : Dealt size rows pages) {row : α} :
    row ∈ rows ↔ ∃ n, 1 ≤ n ∧ n ≤ rows.length ⌈/⌉ size ∧ row ∈ pages n := by
  have hflat : row ∈ rows ↔ ∃ n ∈ List.range' 1 (rows.length ⌈/⌉ size), row ∈ pages n := by
    rw [← List.mem_flatMap, h.flatMap_eq]
  simp only [hflat, List.mem_range'_1, and_assoc, Nat.add_comm 1, Nat.lt_succ_iff]

namespace Page

/-- A page that can be given. -/
structure IsValid (page : Page) : Prop where
  one_le_number : 1 ≤ page.number
  one_le_size : 1 ≤ page.size
  size_le : page.size ≤ maxSize
  /-- A database can count the rows before it. -/
  offset_le : ((page.number - 1) * page.size : Nat) ≤ Text.maxInt64

theorem IsValid.offset?_eq {page : Page} (h : page.IsValid) :
    page.offset? = some ((page.number - 1) * page.size) :=
  if_pos h.offset_le

/-- The rows on a page. -/
def rowsOf (page : Page) (rows : List α) : List α :=
  page.window ((page.number - 1) * page.size) rows

theorem length_rowsOf {page : Page} (h : page.size ≤ maxSize) (rows : List α) :
    (page.rowsOf rows).length = min page.size (rows.length - (page.number - 1) * page.size) := by
  rw [rowsOf, window, limit, Nat.min_eq_left h, List.length_take, List.length_drop]

variable {size : Nat}

/-- So many pages one after another are the first rows. -/
theorem flatMap_rowsOf (h : size ≤ maxSize) (rows : List α) (count : Nat) :
    ((List.range' 1 count).flatMap fun n ↦ rowsOf ⟨n, size⟩ rows) = rows.take (count * size) := by
  induction count with
  | zero => simp
  | succ count ih =>
    have hpage : rowsOf ⟨1 + 1 * count, size⟩ rows = (rows.drop (count * size)).take size := by
      have hoffset : (1 + 1 * count - 1) * size = count * size := by
        rw [Nat.one_mul, Nat.add_sub_cancel_left]
      rw [rowsOf, window, limit, Nat.min_eq_left h, hoffset]
    rw [List.range'_concat, List.flatMap_append, ih, List.flatMap_singleton, hpage, Nat.succ_mul,
      List.take_add]

/-- The last page begins before the rows end. -/
theorem lt_of_le_ceilDiv (hpos : 1 ≤ size) {n total : Nat} (hn : 1 ≤ n) (h : n ≤ total ⌈/⌉ size) :
    (n - 1) * size < total := by
  by_contra hle
  have hlast : total ⌈/⌉ size ≤ n - 1 :=
    (ceilDiv_le_iff_le_smul (Nat.lt_of_lt_of_le Nat.zero_lt_one hpos)).mpr (by
      rw [smul_eq_mul, Nat.mul_comm]
      exact Nat.le_of_not_lt hle)
  omega

/-- Pages that are looked up one by one deal out the rows. -/
theorem dealt_rowsOf (hpos : 1 ≤ size) (h : size ≤ maxSize) (rows : List α) :
    Dealt size rows fun n ↦ rowsOf ⟨n, size⟩ rows where
  flatMap_eq := by
    have hall : rows.length ≤ (rows.length ⌈/⌉ size) * size := by
      have hle : rows.length ≤ size • (rows.length ⌈/⌉ size) := le_smul_ceilDiv hpos
      rwa [smul_eq_mul, Nat.mul_comm] at hle
    rw [flatMap_rowsOf h, List.take_of_length_le hall]
  full n hn hlt := by
    have hnext : n * size < rows.length := lt_of_le_ceilDiv hpos (Nat.succ_pos n) hlt
    have hpred : n * size = (n - 1) * size + size := by
      rw [← Nat.succ_mul, Nat.succ_eq_add_one, Nat.sub_add_cancel hn]
    rw [length_rowsOf h]
    dsimp only
    omega
  beyond n hlt := by
    have hle : rows.length ≤ (n - 1) * size := by
      have hlast : rows.length ⌈/⌉ size ≤ n - 1 := Nat.le_pred_of_lt hlt
      rw [ceilDiv_le_iff_le_smul hpos, smul_eq_mul, Nat.mul_comm] at hlast
      exact hlast
    rw [← List.length_eq_zero_iff, length_rowsOf h]
    dsimp only
    omega

/-- Unless there are more rows than a database can count, all pages up to the last can be given. -/
theorem isValid_of_le_ceilDiv (hpos : 1 ≤ size) (h : size ≤ maxSize) {total : Nat}
    (htotal : (total : Int) ≤ Text.maxInt64) {n : Nat} (hn : 1 ≤ n) (hle : n ≤ total ⌈/⌉ size) :
    IsValid ⟨n, size⟩ where
  one_le_number := hn
  one_le_size := hpos
  size_le := h
  offset_le := by
    have hlt := lt_of_le_ceilDiv hpos hn hle
    dsimp only
    omega

end Page

/-- The page that a client asks for, whether it can be given or not. -/
def Api.ListParams.asked (p : ListParams) : Page :=
  ⟨p.pageNumber.getD 1, p.pageSize.getD standardSize⟩

/-- A client gets the page that it asks for, if that can be given, and is told what is wrong
otherwise. -/
theorem Api.ListParams.page_cases (p : ListParams) :
    p.asked.IsValid ∧ p.page = .ok p.asked ∨
      ¬ p.asked.IsValid ∧ ∃ fault, p.page = .error fault := by
  have hpage : p.page =
      if p.asked.number = 0 then .error .number
      else if p.asked.size = 0 ∨ Page.maxSize < p.asked.size then .error .size
      else if p.asked.offset?.isNone then .error (.range p.asked)
      else .ok p.asked := rfl
  rw [hpage]
  generalize p.asked = page
  split
  next hnumber => exact .inr ⟨fun h ↦ Nat.ne_of_gt h.one_le_number hnumber, _, rfl⟩
  split
  next hnumber hsize =>
    refine .inr ⟨fun h ↦ ?_, _, rfl⟩
    have hpos := h.one_le_size
    have hle := h.size_le
    omega
  split
  next hnumber hsize hoffset =>
    refine .inr ⟨fun h ↦ ?_, _, rfl⟩
    rw [h.offset?_eq] at hoffset
    contradiction
  next hnumber hsize hoffset =>
    refine .inl ⟨⟨Nat.pos_of_ne_zero hnumber, by omega, by omega, ?_⟩, rfl⟩
    by_contra hlarge
    rw [Page.offset?, if_neg hlarge] at hoffset
    exact hoffset rfl

end RuleWatch
