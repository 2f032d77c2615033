import RuleWatch.Api.ListParams
import RuleWatch.Proofs.Store.Listing

/-!
# Pages in words

The number and the size of a page are words of 64 bits, and a database counts rows in words with a
sign. A product that is too large for a word is noticed, and so is a word that is too large for one
with a sign; so words bring what numbers without a bound bring (`Page.map_wordOffset?`). A client is
given each page that can be counted in this way, and no store finds such a page out of range
(`Api.ListParams.page_in_words`).
-/

namespace RuleWatch

open Listing

/-! ## Words -/

namespace Word

/-- One less, and nothing less than zero. -/
def pred (n : UInt64) : UInt64 :=
  if n = 0 then 0 else n - 1

/-- The product, unless it is too large for a word. -/
def mul? (a b : UInt64) : Option UInt64 :=
  if a.toBitVec.umulOverflow b.toBitVec then none else some (a * b)

/-- The word with a sign that has the same value, if there is one. -/
def signed? (n : UInt64) : Option Int64 :=
  if n ≤ 0x7FFFFFFFFFFFFFFF then some n.toInt64 else none

variable {a b n p : UInt64}

theorem toNat_pred (n : UInt64) : (pred n).toNat = n.toNat - 1 := by
  unfold pred
  split
  next h => rw [h, UInt64.toNat_zero]
  next h =>
    have hpos : n.toNat ≠ 0 := fun hzero ↦ h (UInt64.toNat_inj.mp hzero)
    have hone : (1 : UInt64) ≤ n := by
      rw [UInt64.le_iff_toNat_le, UInt64.toNat_one]
      exact Nat.pos_of_ne_zero hpos
    rw [UInt64.toNat_sub_of_le _ _ hone, UInt64.toNat_one]

/-- A product that is there is the exact one. -/
theorem mul?_eq_some_iff :
    mul? a b = some p ↔ a.toNat * b.toNat ≤ Text.maxUInt64 ∧ p.toNat = a.toNat * b.toNat := by
  have hfits : a.toBitVec.umulOverflow b.toBitVec = false ↔ a.toNat * b.toNat < 2 ^ 64 := by
    rw [BitVec.umulOverflow, decide_eq_false_iff_not, UInt64.toNat_toBitVec,
      UInt64.toNat_toBitVec, Nat.not_le]
  have hbound : a.toNat * b.toNat < 2 ^ 64 ↔ a.toNat * b.toNat ≤ Text.maxUInt64 := Nat.lt_succ_iff
  rw [mul?, ← hbound, ← hfits]
  cases hflag : a.toBitVec.umulOverflow b.toBitVec with
  | true => simp
  | false =>
    have hexact : (a * b).toNat = a.toNat * b.toNat := by
      rw [UInt64.toNat_mul]
      exact Nat.mod_eq_of_lt (hfits.mp hflag)
    rw [if_neg Bool.false_ne_true, Option.some.injEq, ← UInt64.toNat_inj, hexact]
    exact ⟨fun h ↦ ⟨rfl, h.symm⟩, fun h ↦ h.2.symm⟩

/-- A product is there unless it is too large. -/
theorem mul?_isSome_iff : (mul? a b).isSome ↔ a.toNat * b.toNat ≤ Text.maxUInt64 := by
  rw [Option.isSome_iff_exists]
  constructor
  · rintro ⟨p, hp⟩
    exact (mul?_eq_some_iff.mp hp).1
  · intro hle
    have hsize : a.toNat * b.toNat < UInt64.size := Nat.lt_succ_of_le hle
    exact ⟨.ofNat (a.toNat * b.toNat), mul?_eq_some_iff.mpr
      ⟨hle, UInt64.toNat_ofNat_of_lt' hsize⟩⟩

/-- A word below the sign keeps its value when it gets one. -/
theorem signed?_eq_some_iff {k : Int64} :
    signed? n = some k ↔ (n.toNat : Int) ≤ Text.maxInt64 ∧ k.toInt = n.toNat := by
  have hbound : n ≤ 0x7FFFFFFFFFFFFFFF ↔ (n.toNat : Int) ≤ Text.maxInt64 := by
    rw [UInt64.le_iff_toNat_le, ← Int.ofNat_le]
    rfl
  simp only [signed?, hbound, Option.ite_none_right_eq_some, Option.some.injEq]
  refine and_congr_right fun hle ↦ ?_
  have hvalue : n.toInt64.toInt = n.toNat := by
    refine BitVec.toInt_eq_toNat_of_lt ?_
    rw [UInt64.toBitVec_toInt64, UInt64.toNat_toBitVec]
    unfold Text.maxInt64 at hle
    omega
  rw [← Int64.toInt_inj, hvalue]
  exact eq_comm

/-- A word gets a sign unless it is too large. -/
theorem signed?_isSome_iff : (signed? n).isSome ↔ (n.toNat : Int) ≤ Text.maxInt64 := by
  rw [Option.isSome_iff_exists]
  constructor
  · rintro ⟨k, hk⟩
    exact (signed?_eq_some_iff.mp hk).1
  · intro hle
    refine ⟨.ofInt n.toNat, signed?_eq_some_iff.mpr ⟨hle, ?_⟩⟩
    unfold Text.maxInt64 at hle
    exact Int64.toInt_ofInt_of_le (by omega) (by omega)

end Word

/-! ## Pages -/

namespace Page

/-- How many rows are passed over by a page that is given in words. -/
def wordOffset? (number size : UInt64) : Option UInt64 :=
  (Word.mul? (Word.pred number) size).filter fun offset ↦ (Word.signed? offset).isSome

/-- How many rows are given at most by a page that is given in words. -/
def wordLimit (size : UInt64) : UInt64 :=
  min size 1000

variable {number size : UInt64}

/-- Words bring the rows that are passed over, and find out when a database cannot count them. -/
theorem map_wordOffset? (number size : UInt64) :
    (wordOffset? number size).map UInt64.toNat = offset? ⟨number.toNat, size.toNat⟩ := by
  rw [wordOffset?, offset?, ← Word.toNat_pred]
  cases hmul : Word.mul? (Word.pred number) size with
  | some rows =>
    obtain ⟨-, hrows⟩ := Word.mul?_eq_some_iff.mp hmul
    simp only [Option.filter_some, Word.signed?_isSome_iff, hrows]
    split <;> simp [hrows]
  | none =>
    have hlarge : ¬ (Word.pred number).toNat * size.toNat ≤ Text.maxUInt64 := by
      rw [← Word.mul?_isSome_iff, hmul]
      exact Bool.false_ne_true
    have hbound : ¬ (((Word.pred number).toNat * size.toNat : Nat) : Int) ≤ Text.maxInt64 := by
      unfold Text.maxUInt64 at hlarge
      unfold Text.maxInt64
      omega
    exact (if_neg hbound).symm

theorem toNat_wordLimit (number : Nat) (size : UInt64) :
    (wordLimit size).toNat = limit ⟨number, size.toNat⟩ := by
  change (if size ≤ 1000 then size else 1000).toNat = min size.toNat maxSize
  have hle : size ≤ 1000 ↔ size.toNat ≤ maxSize := UInt64.le_iff_toNat_le
  split
  next h => exact (Nat.min_eq_left (hle.mp h)).symm
  next h => exact (Nat.min_eq_right (Nat.le_of_not_le (mt hle.mpr h))).symm

/-- The page can be counted in words, and no step of the count leaves them. -/
structure IsCounted (page : Page) (number size : UInt64) : Prop where
  offset : page.offset? = some ((number.toNat - 1) * size.toNat)
  limit : page.limit = size.toNat
  toNat_pred : (Word.pred number).toNat = number.toNat - 1
  /-- The product is exact, and it keeps its value when it gets a sign. -/
  mul : ∃ (rows : UInt64) (signed : Int64), Word.mul? (Word.pred number) size = some rows ∧
    wordOffset? number size = some rows ∧ rows.toNat = (number.toNat - 1) * size.toNat ∧
    Word.signed? rows = some signed ∧ signed.toInt = rows.toNat
  toNat_limit : (wordLimit size).toNat = size.toNat

theorem IsValid.isCounted (h : IsValid ⟨number.toNat, size.toNat⟩) :
    IsCounted ⟨number.toNat, size.toNat⟩ number size where
  offset := h.offset?_eq
  limit := Nat.min_eq_left h.size_le
  toNat_pred := Word.toNat_pred number
  mul := by
    have hwords := map_wordOffset? number size
    rw [h.offset?_eq] at hwords
    obtain ⟨rows, hoffset, hrows⟩ := Option.map_eq_some_iff.mp hwords
    obtain ⟨hmul, hsigned⟩ := Option.filter_eq_some_iff.mp hoffset
    obtain ⟨signed, hsigned⟩ := Option.isSome_iff_exists.mp hsigned
    exact ⟨rows, signed, hmul, hoffset, hrows, hsigned, (Word.signed?_eq_some_iff.mp hsigned).2⟩
  toNat_limit := (toNat_wordLimit number.toNat size).trans (Nat.min_eq_left h.size_le)

end Page

/-! ## Listings -/

section Store

variable {φ ρ : Type} [Column φ ρ] {name : ρ → String} {filter : Option String}

/-- Nothing is wrong with a filter but its length. -/
theorem Store.eq_database_of_matching {rows : List ρ} {failure : Store.Failure}
    (h : matching name filter rows = .error failure) : ∃ text, failure = .database text := by
  unfold matching at h
  split at h
  · contradiction
  · split at h
    · exact ⟨_, (Except.error.inj h).symm⟩
    · cases h

/-- A store finds a page out of range only if it cannot count the rows before it. -/
theorem Store.list_ne_invalidPage {order : Order φ} {page : Page} {rows : List ρ} {offset : Nat}
    (h : page.offset? = some offset) (text : String) :
    list name filter order page rows ≠ .error (.invalidPage text) := by
  rw [list, h]
  cases hmatching : matching name filter rows with
  | ok found =>
    intro hfailed
    cases hfailed
  | error failure =>
    obtain ⟨text', rfl⟩ := eq_database_of_matching hmatching
    intro hfailed
    have hsame : Store.Failure.database text' = .invalidPage text := Except.error.inj hfailed
    contradiction

end Store

/-- A client that asks for a page in words, the first one and ten rows if it says nothing, is given
it just if it can be given. It can be counted in words then, and no store finds it out of range. -/
theorem Api.ListParams.page_in_words (params : ListParams) (number size : Option UInt64) :
    let p := { params with
      pageNumber := number.map UInt64.toNat, pageSize := size.map UInt64.toNat }
    let n := number.getD 1
    let s := size.getD 10
    ((∃ page, p.page = .ok page) ↔
      1 ≤ n.toNat ∧ 1 ≤ s.toNat ∧ s.toNat ≤ 1000 ∧ (n.toNat - 1) * s.toNat ≤ 2 ^ 63 - 1) ∧
    (Page.wordOffset? n s).map UInt64.toNat = Page.offset? ⟨n.toNat, s.toNat⟩ ∧
    ∀ page, p.page = .ok page → page = ⟨n.toNat, s.toNat⟩ ∧ page.IsCounted n s ∧
      ∀ (store : Store) (filter : Option String) (text : String),
        (∀ order, store.listRules filter order page ≠ .error (.invalidPage text)) ∧
        ∀ order, store.listAnalyses filter order page ≠ .error (.invalidPage text) := by
  intro p n s
  have hasked : p.asked = ⟨n.toNat, s.toNat⟩ := by
    cases number <;> cases size <;> rfl
  have hvalid : p.asked.IsValid ↔
      1 ≤ n.toNat ∧ 1 ≤ s.toNat ∧ s.toNat ≤ 1000 ∧ (n.toNat - 1) * s.toNat ≤ 2 ^ 63 - 1 := by
    rw [hasked]
    constructor
    · rintro ⟨hn, hs, hmax, hoffset⟩
      exact ⟨hn, hs, hmax, Int.ofNat_le.mp hoffset⟩
    · rintro ⟨hn, hs, hmax, hoffset⟩
      exact ⟨hn, hs, hmax, Int.ofNat_le.mpr hoffset⟩
  refine ⟨?_, Page.map_wordOffset? n s, fun page hpage ↦ ?_⟩
  · rw [← hvalid]
    obtain ⟨h, hpage⟩ | ⟨h, fault, hpage⟩ := p.page_cases
    · exact iff_of_true ⟨_, hpage⟩ h
    · refine iff_of_false ?_ h
      rintro ⟨page, hok⟩
      rw [hpage] at hok
      contradiction
  · obtain ⟨h, hasks⟩ | ⟨-, fault, hfault⟩ := p.page_cases
    · rw [hasked] at h hasks
      obtain rfl := Except.ok.inj (hpage.symm.trans hasks)
      exact ⟨rfl, h.isCounted, fun store filter text ↦
        ⟨fun order ↦ Store.list_ne_invalidPage h.offset?_eq text,
          fun order ↦ Store.list_ne_invalidPage h.offset?_eq text⟩⟩
    · rw [hpage] at hfault
      contradiction

/-- The last page of a thousand rows that can be counted in words. -/
theorem Api.ListParams.page_in_words_of_last :
    let last : UInt64 := 9223372036854776
    let p : ListParams := ⟨none, none, none, some last.toNat, some 1000⟩
    let beyond : ListParams := { p with pageNumber := some (last.toNat + 1) }
    p.page = .ok ⟨9223372036854776, 1000⟩ ∧
      Page.IsCounted ⟨9223372036854776, 1000⟩ last 1000 ∧
      ¬ ∃ page, beyond.page = .ok page := by
  intro last p beyond
  have hpage : p.page = .ok ⟨9223372036854776, 1000⟩ := by decide +kernel
  refine ⟨hpage, ((page_in_words p (some last) (some 1000)).2.2 _ hpage).2.1, ?_⟩
  refine (page_in_words p (some (last + 1)) (some 1000)).1.not.mpr ?_
  decide +kernel

end RuleWatch
