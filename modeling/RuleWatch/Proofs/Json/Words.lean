import Mathlib.Tactic.SplitIfs
import RuleWatch.Json.Scan
import RuleWatch.Proofs.Double.Finite
import RuleWatch.Proofs.Json.Doubles

/-!
# The numbers of a text

An integer of 64 bits, signed or not, is read from a text as that integer, and every other number as
a finite double. So all that a scan holds at any time are numbers that fit in words: what fits
before a byte fits after it (`Scan.FitsWords.next`), and so does the outline at the end
(`fitsWords_scan`).
-/

namespace RuleWatch.Json

/-- An integer is one of 64 bits, signed or not, and a double is finite. -/
def Number.FitsWord : Number → Prop
  | .int n => Text.minInt64 ≤ n ∧ n ≤ Text.maxUInt64
  | .double d => d.isFinite

/-- An integer that fits is rounded to a finite double. -/
theorem Number.FitsWord.isFinite_toDouble {n : Number} (h : n.FitsWord) : n.toDouble.isFinite := by
  cases n with
  | int k =>
    obtain ⟨hlow, hhigh⟩ := h
    unfold Text.minInt64 at hlow
    unfold Text.maxUInt64 at hhigh
    exact Double.isFinite_ofInt (by omega)
  | double d => exact h

namespace Numeral

variable {d : Double}

/-! ## Magnitudes -/

theorem digits_readWhole_le {head : Head} (h : head.digits ≤ Text.maxUInt64) (full : Bool)
    (cs : List Char) : (readWhole full head cs).digits ≤ Text.maxUInt64 := by
  induction cs generalizing full head with
  | nil => exact h
  | cons c cs ih =>
    unfold readWhole
    split_ifs with hfull
    · refine ih ?_ true
      exact h
    · rw [Bool.or_eq_true, not_or, decide_eq_true_eq, Nat.not_lt] at hfull
      exact ih hfull.2 false

theorem digits_readFraction_le {head : Head} (h : head.digits ≤ Text.maxUInt64) (cs : List Char) :
    (readFraction head cs).digits ≤ Text.maxUInt64 := by
  induction cs generalizing head with
  | nil => exact h
  | cons c cs ih =>
    unfold readFraction
    split_ifs with hfull
    · exact h
    · exact ih (Nat.not_lt.mp hfull)

theorem digits_head_le (numeral : Numeral) : numeral.head.digits ≤ Text.maxUInt64 :=
  digits_readFraction_le (digits_readWhole_le (Nat.zero_le _) false numeral.whole) _

theorem isFinite_divMagnitude_power (h : d.isFinite) (n : Nat) :
    (d.divMagnitude (power n)).isFinite :=
  Double.isFinite_divMagnitude h (Double.isAtLeastOne_ofDecimal n)

theorem isFinite_divide (h : d.isFinite) (steps n : Nat) : (divide steps d n).isFinite := by
  induction steps generalizing d n with
  | zero => exact isFinite_divMagnitude_power h n
  | succ steps ih =>
    unfold divide
    split_ifs
    · exact isFinite_divMagnitude_power h n
    · exact h
    · exact ih (isFinite_divMagnitude_power h maxPower) _

theorem isFinite_of_finite? {d' : Double} (h : finite? d = some d') : d'.isFinite := by
  unfold finite? at h
  split_ifs at h with hfinite
  exact Option.some.inj h ▸ hfinite

theorem Head.isFinite_of_magnitude? {head : Head} (hdigits : head.digits ≤ Text.maxUInt64)
    (h : head.magnitude? = some d) : d.isFinite := by
  have hstart : (Double.ofInt head.digits).isFinite := by
    unfold Text.maxUInt64 at hdigits
    exact Double.isFinite_ofInt (by omega)
  unfold magnitude? at h
  dsimp only at h
  split_ifs at h
  · exact Option.some.inj h ▸ isFinite_divide hstart 4 _
  · exact isFinite_of_finite? h
  · exact Option.some.inj h ▸ hstart

theorem isFinite_of_magnitude? {numeral : Numeral} (h : numeral.magnitude? = some d) :
    d.isFinite := by
  have hdigits := numeral.digits_head_le
  unfold magnitude? at h
  split at h
  · exact Head.isFinite_of_magnitude? hdigits h
  · dsimp only at h
    split_ifs at h
    · exact Option.some.inj h ▸ Double.isFinite_zero
    all_goals
      refine Head.isFinite_of_magnitude? ?_ h
      exact hdigits

/-! ## Values -/

/-- The value of a numeral fits, whatever its digits are. -/
theorem fitsWord_value? {numeral : Numeral} {n : Number} (h : numeral.value? = some n) :
    n.FitsWord := by
  unfold value? at h
  cases hint : numeral.int? with
  | none =>
    rw [hint] at h
    obtain ⟨d, hd, rfl⟩ := Option.map_eq_some_iff.mp h
    have hfinite := isFinite_of_magnitude? hd
    cases numeral.negative with
    | true => exact Double.isFinite_neg hfinite
    | false => exact hfinite
  | some k =>
    rw [hint] at h
    obtain rfl := Option.some.inj h
    unfold int? at hint
    have hmin : Text.minInt64 ≤ 0 := by decide
    have hmax : (0 : Int) ≤ Text.maxUInt64 := by decide
    simp only [Number.FitsWord]
    grind

end Numeral

/-- All numbers of an outline fit. -/
inductive Outline.FitsWords : Outline → Prop
  | broken : FitsWords .broken
  | null : FitsWords .null
  | bool (b : Bool) : FitsWords (.bool b)
  | number {value : Option Number} (h : ∀ n, value = some n → n.FitsWord) :
    FitsWords (.number value)
  | string (s : Option String) : FitsWords (.string s)
  | array {items : List Outline} {whole : Bool} (h : ∀ o ∈ items, FitsWords o) :
    FitsWords (.array items whole)
  | object {entries : List Entry} {whole : Bool} (h : ∀ e ∈ entries, FitsWords e.2) :
    FitsWords (.object entries whole)

/-- All numbers of a value fit. -/
inductive FitsWords : Json → Prop
  | null : FitsWords .null
  | bool (b : Bool) : FitsWords (.bool b)
  | number {n : Number} (h : n.FitsWord) : FitsWords (.number n)
  | string (s : String) : FitsWords (.string s)
  | array {items : List Json} (h : ∀ v ∈ items, FitsWords v) : FitsWords (.array items)
  | object {members : List (String × Json)} (h : ∀ m ∈ members, FitsWords m.2) :
    FitsWords (.object members)

/-- All numbers that an open container holds fit. -/
def Open.FitsWords : Open → Prop
  | .array items => ∀ o ∈ items, o.FitsWords
  | .object entries _ | .keyless entries => ∀ e ∈ entries, e.2.FitsWords

/-- Doubles that fit are finite. -/
theorem FitsWords.isFinite {v : Json} (h : v.FitsWords) : ∀ d ∈ v.doubles, d.isFinite := by
  induction h with
  | null | bool | string => simp [doubles]
  | @number n h =>
    cases n with
    | int k => simp [doubles]
    | double x => simpa [doubles] using show x.isFinite from h
  | array _ ih =>
    simp only [doubles, doublesOfItems_eq_flatMap, List.mem_flatMap]
    rintro d ⟨v, hv, hd⟩
    exact ih v hv d hd
  | object _ ih =>
    simp only [doubles, doublesOfMembers_eq_flatMap, List.mem_flatMap]
    rintro d ⟨m, hm, hd⟩
    exact ih m hm d hd

variable {value : Outline} {stack : List Open} {entries : List Entry}

theorem Outline.FitsWords.entry (h : value.FitsWords) (key : Option String) :
    (Outline.entry key value).2.FitsWords := by
  unfold Outline.entry
  split
  · exact h
  · exact .string none

theorem fitsWords_breakOff (h : value.FitsWords) (hstack : ∀ x ∈ stack, x.FitsWords) :
    (breakOff value stack).FitsWords := by
  induction stack generalizing value with
  | nil => exact h
  | cons x stack ih =>
    obtain ⟨hx, hrest⟩ := List.forall_mem_cons.mp hstack
    cases x with
    | array items =>
      refine ih (.array fun o ho ↦ ?_) hrest
      exact List.forall_mem_cons.mpr ⟨h, hx⟩ o (List.mem_reverse.mp ho)
    | object entries key =>
      refine ih (.object fun e he ↦ ?_) hrest
      exact (List.forall_mem_cons (p := fun e : Entry ↦ e.2.FitsWords)).mpr ⟨h.entry key, hx⟩ e
        (List.mem_reverse.mp he)
    | keyless entries =>
      refine ih (.object fun e he ↦ ?_) hrest
      exact (List.forall_mem_cons (p := fun e : Entry ↦ e.2.FitsWords)).mpr ⟨h, hx⟩ e
        (List.mem_reverse.mp he)

namespace Scan

/-- All numbers that a scan holds fit. -/
def FitsWords : Scan → Prop
  | .atValue _ stack | .afterValue stack | .inNumeral _ stack | .inString _ stack =>
    ∀ x ∈ stack, x.FitsWords
  | .atKey _ entries stack | .atColon entries _ stack | .inKey _ entries stack =>
    (∀ e ∈ entries, e.2.FitsWords) ∧ ∀ x ∈ stack, x.FitsWords
  | .inWord _ value stack => value.FitsWords ∧ ∀ x ∈ stack, x.FitsWords
  | .done value | .halted value => value.FitsWords

theorem fitsWords_feed (h : value.FitsWords) (hstack : ∀ x ∈ stack, x.FitsWords) :
    (feed value stack).FitsWords := by
  cases stack with
  | nil => exact h
  | cons x stack =>
    obtain ⟨hx, hrest⟩ := List.forall_mem_cons.mp hstack
    cases x with
    | array items => exact List.forall_mem_cons.mpr ⟨List.forall_mem_cons.mpr ⟨h, hx⟩, hrest⟩
    | object entries key =>
      exact List.forall_mem_cons.mpr ⟨List.forall_mem_cons.mpr ⟨h.entry key, hx⟩, hrest⟩
    | keyless entries => exact fitsWords_breakOff h hstack

theorem fitsWords_haltValue (hstack : ∀ x ∈ stack, x.FitsWords) : (haltValue stack).FitsWords :=
  fitsWords_breakOff .broken hstack

/-- A container that is given up or closed. -/
theorem fitsWords_reverse_array {items : List Outline} (h : ∀ o ∈ items, o.FitsWords)
    (whole : Bool) : (Outline.array items.reverse whole).FitsWords :=
  .array fun o ho ↦ h o (List.mem_reverse.mp ho)

theorem fitsWords_reverse_object (h : ∀ e ∈ entries, e.2.FitsWords) (whole : Bool) :
    (Outline.object entries.reverse whole).FitsWords :=
  .object fun e he ↦ h e (List.mem_reverse.mp he)

theorem fitsWords_haltAfter (hstack : ∀ x ∈ stack, x.FitsWords) : (haltAfter stack).FitsWords := by
  cases stack with
  | nil => exact .broken
  | cons x stack =>
    obtain ⟨hx, hrest⟩ := List.forall_mem_cons.mp hstack
    cases x with
    | array items => exact fitsWords_breakOff (fitsWords_reverse_array hx false) hrest
    | object entries key => exact fitsWords_breakOff (fitsWords_reverse_object hx false) hrest
    | keyless entries => exact fitsWords_breakOff (fitsWords_reverse_object hx false) hrest

/-- A byte that begins a value adds no number yet. -/
theorem fitsWords_openValue (b : UInt8) (hstack : ∀ x ∈ stack, x.FitsWords) :
    (openValue b stack).FitsWords := by
  unfold openValue
  dsimp only
  split
  · exact List.forall_mem_cons.mpr ⟨by simp [Open.FitsWords], hstack⟩
  · exact ⟨by simp, hstack⟩
  · exact hstack
  · exact ⟨.null, hstack⟩
  · exact ⟨.bool true, hstack⟩
  · exact ⟨.bool false, hstack⟩
  · split
    · exact hstack
    · exact fitsWords_haltValue hstack

theorem fitsWords_goOn (b : UInt8) (hstack : ∀ x ∈ stack, x.FitsWords) :
    (goOn b stack).FitsWords := by
  unfold goOn
  split
  · obtain ⟨hx, hrest⟩ := List.forall_mem_cons.mp hstack
    split_ifs
    · exact hstack
    · exact fitsWords_feed (fitsWords_reverse_array hx true) hrest
    · exact fitsWords_haltAfter hstack
  · obtain ⟨hx, hrest⟩ := List.forall_mem_cons.mp hstack
    split_ifs
    · exact ⟨hx, hrest⟩
    · exact fitsWords_feed (fitsWords_reverse_object hx true) hrest
    · exact fitsWords_haltAfter hstack
  · exact fitsWords_haltAfter hstack

theorem FitsWords.between {s : Scan} (h : s.FitsWords) (b : UInt8) : (between b s).FitsWords := by
  cases s with
  | afterValue stack =>
    change (if isBlank b then afterValue stack else goOn b stack).FitsWords
    split
    · exact h
    · exact fitsWords_goOn b h
  | done value =>
    change (if isBlank b then done value else halted value).FitsWords
    split <;> exact h
  | _ => exact h

theorem fitsWords_outline (n : OpenNumeral) : n.outline.FitsWords :=
  .number fun _ ↦ Numeral.fitsWord_value?

/-- One more byte. -/
theorem FitsWords.next {s : Scan} (h : s.FitsWords) (b : UInt8) : (s.next b).FitsWords := by
  cases s with
  | atValue mayClose stack =>
    unfold Scan.next
    dsimp only
    split_ifs
    · exact h
    · exact fitsWords_goOn b h
    · exact fitsWords_openValue b h
  | atKey mayClose entries stack =>
    unfold Scan.next
    dsimp only
    split_ifs
    · exact h
    · exact h
    · exact fitsWords_feed (fitsWords_reverse_object h.1 true) h.2
    · exact fitsWords_openValue b (List.forall_mem_cons.mpr h)
  | atColon entries key stack =>
    unfold Scan.next
    dsimp only
    split_ifs
    · exact h
    · exact List.forall_mem_cons.mpr h
    · exact fitsWords_haltValue (List.forall_mem_cons.mpr h)
  | inWord left value stack =>
    cases left with
    | nil => exact (fitsWords_feed h.1 h.2).between b
    | cons c left =>
      unfold Scan.next
      dsimp only
      split_ifs
      · exact fitsWords_haltValue h.2
      · exact fitsWords_feed h.1 h.2
      · exact h
  | inNumeral n stack =>
    unfold Scan.next
    dsimp only
    split
    · exact h
    · split_ifs
      · exact (fitsWords_feed (fitsWords_outline n) h).between b
      · exact fitsWords_haltValue h
  | inString s stack =>
    unfold Scan.next
    dsimp only
    split
    · exact h
    · exact fitsWords_feed (.string _) h
    · exact fitsWords_haltValue h
  | inKey s entries stack =>
    unfold Scan.next
    dsimp only
    split
    · exact h
    · exact h
    · exact fitsWords_breakOff (fitsWords_reverse_object h.1 false) h.2
  | afterValue stack => exact h.between b
  | done value => exact h.between b
  | halted value => exact h

theorem FitsWords.foldl {s : Scan} (h : s.FitsWords) (bytes : Bytes) :
    (bytes.foldl Scan.next s).FitsWords := by
  induction bytes generalizing s with
  | nil => exact h
  | cons b bytes ih => exact ih (h.next b)

/-- What is left of a container when the text ends after one of its values. -/
theorem fitsWords_of_haltAfter (hstack : ∀ x ∈ stack, x.FitsWords) :
    (match haltAfter stack with
      | .halted value => (value, false)
      | _ => (.broken, false)).1.FitsWords := by
  have hhalted := fitsWords_haltAfter hstack
  split
  · next value heq =>
    rw [heq] at hhalted
    exact hhalted
  · exact .broken

theorem FitsWords.finish {s : Scan} (h : s.FitsWords) : s.finish.1.FitsWords := by
  cases s with
  | atValue mayClose stack => exact fitsWords_breakOff .broken h
  | atKey mayClose entries stack | inKey s entries stack =>
    exact fitsWords_breakOff (fitsWords_reverse_object h.1 false) h.2
  | atColon entries key stack => exact fitsWords_breakOff .broken (List.forall_mem_cons.mpr h)
  | afterValue stack => exact fitsWords_of_haltAfter h
  | inWord left value stack => exact fitsWords_breakOff .broken h.2
  | inString s stack => exact fitsWords_breakOff .broken h
  | inNumeral n stack =>
    have hfed := fitsWords_feed (fitsWords_outline n) h
    unfold Scan.finish
    dsimp only
    split
    · split
      · next heq =>
        rw [heq] at hfed
        exact hfed
      · next heq =>
        rw [heq] at hfed
        exact fitsWords_of_haltAfter hfed
      · next heq =>
        rw [heq] at hfed
        exact hfed
      · exact .broken
    · exact fitsWords_breakOff .broken h
  | done value => exact h
  | halted value => exact h

end Scan

/-- All numbers of a text fit. -/
theorem fitsWords_scan (bytes : Bytes) : (scan bytes).1.FitsWords :=
  (Scan.FitsWords.foldl (s := Scan.start) (by simp [Scan.start, Scan.FitsWords]) bytes).finish

end RuleWatch.Json
