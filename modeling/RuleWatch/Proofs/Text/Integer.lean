import RuleWatch.Proofs.Text.Place
import RuleWatch.Text.Blank
import RuleWatch.Text.Integer

/-!
# How integers are spelled

An integer is spelled in decimal digits. Zeros may stand in front of them, and a plus sign in front
of those if the integer is not negative; a negative one has a minus sign there. However it is
spelled the same is read of it (`Spells.int?_eq`), and blanks around it are removed first
(`trimList_append_append`).
-/

namespace RuleWatch.Text

variable {n m : Int} {cs : List Char}

/-! ## Digits -/

theorem digitsValue_eq_ofDigitChars (cs : List Char) :
    digitsValue cs = Nat.ofDigitChars 10 cs 0 := by
  simp only [digitsValue, Nat.ofDigitChars, Nat.mul_comm]

theorem digitsValue_zeros_append (zeros : Nat) (cs : List Char) :
    digitsValue (List.replicate zeros '0' ++ cs) = digitsValue cs := by
  induction zeros with
  | zero => rfl
  | succ zeros ih => exact ih

theorem digitsValue_append_zeros (cs : List Char) (zeros : Nat) :
    digitsValue (cs ++ List.replicate zeros '0') = digitsValue cs * 10 ^ zeros := by
  rw [digitsValue_eq_ofDigitChars, digitsValue_eq_ofDigitChars, Nat.ofDigitChars_append,
    Nat.ofDigitChars_replicate_zero, Nat.mul_comm]

/-- Digits of a number, with zeros in front, are read as the number. -/
theorem nat?_zeros_append (zeros n : Nat) :
    nat? (List.replicate zeros '0' ++ Nat.toDigits 10 n) = some n := by
  have hdigits : ∀ c ∈ List.replicate zeros '0' ++ Nat.toDigits 10 n, c.isDigit := by
    intro c hc
    obtain hc | hc := List.mem_append.mp hc
    · exact List.eq_of_mem_replicate hc ▸ rfl
    · exact Nat.isDigit_of_mem_toDigits (by decide) (by decide) hc
  rw [nat?, List.all_eq_true.mpr hdigits, digitsValue_zeros_append,
    digitsValue_eq_ofDigitChars, Nat.ofDigitChars_ten_toDigits]
  simp

/-! ## Signs -/

/-- The sign that may stand in front of the digits of an integer. -/
inductive IsSign : Int → List Char → Prop
  | none {n : Int} (h : 0 ≤ n) : IsSign n []
  | plus {n : Int} (h : 0 ≤ n) : IsSign n ['+']
  | minus {n : Int} (h : n < 0) : IsSign n ['-']

/-- The characters spell the integer. -/
inductive Spells : Int → List Char → Prop
  | mk {n : Int} {sign : List Char} (hsign : IsSign n sign) (zeros : Nat) :
    Spells n (sign ++ (List.replicate zeros '0' ++ Nat.toDigits 10 n.natAbs))

/-- The value of digits behind an optional sign, however great it is. -/
def int? : List Char → Option Int
  | '+' :: cs => (nat? cs).map Int.ofNat
  | '-' :: cs => (nat? cs).map fun n ↦ -Int.ofNat n
  | cs => (nat? cs).map Int.ofNat

theorem int64?_eq_filter (s : String) :
    int64? s = (int? s.toList).filter fun n ↦ minInt64 ≤ n && n ≤ maxInt64 :=
  rfl

theorem int?_eq_of_nat? {k : Nat} (h : nat? cs = some k) : int? cs = some (k : Int) := by
  unfold int?
  split
  · simp [nat?] at h
  · simp [nat?] at h
  · rw [h]
    rfl

theorem Spells.int?_eq (h : Spells n cs) : int? cs = some n := by
  obtain ⟨hsign, zeros⟩ := h
  have hdigits := nat?_zeros_append zeros n.natAbs
  cases hsign with
  | none hn => rw [List.nil_append, int?_eq_of_nat? hdigits, Int.natAbs_of_nonneg hn]
  | plus hn =>
    rw [List.singleton_append, int?, hdigits]
    exact congrArg some (Int.natAbs_of_nonneg hn)
  | minus hn =>
    rw [List.singleton_append, int?, hdigits, Option.map_some]
    exact congrArg some (by rw [Int.ofNat_eq_natCast]; omega)

/-- No two integers are spelled alike. -/
theorem Spells.eq (h : Spells n cs) (h' : Spells m cs) : n = m :=
  Option.some.inj (h.int?_eq.symm.trans h'.int?_eq)

/-- A spelled integer is read, if it is one of a word. -/
theorem Spells.int64?_eq (h : Spells n cs) (hlow : minInt64 ≤ n) (hhigh : n ≤ maxInt64) :
    int64? (String.ofList cs) = some n := by
  rw [int64?_eq_filter, String.toList_ofList, h.int?_eq, Option.filter_some]
  simp [hlow, hhigh]

/-- And it is not read otherwise. -/
theorem Spells.int64?_eq_none (h : Spells n cs) (hout : n < minInt64 ∨ maxInt64 < n) :
    int64? (String.ofList cs) = none := by
  rw [int64?_eq_filter, String.toList_ofList, h.int?_eq, Option.filter_some]
  simp
  omega

theorem spells_toString (n : Int) : Spells n (toString n).toList := by
  cases n with
  | ofNat k =>
    have hshown : (toString (Int.ofNat k)).toList = Nat.toDigits 10 k := String.toList_ofList
    exact hshown ▸ .mk (.none (Int.natCast_nonneg k)) 0
  | negSucc k =>
    have hshown : (toString (Int.negSucc k)).toList = '-' :: Nat.toDigits 10 (k + 1) := by
      change ("-" ++ String.ofList (Nat.toDigits 10 (k + 1))).toList = _
      simp
    exact hshown ▸ .mk (.minus (Int.negSucc_lt_zero k)) 0

theorem toString_injective (h : toString n = toString m) : n = m :=
  (spells_toString n).eq (h ▸ spells_toString m)

/-! ## Blanks -/

theorem isBlank_eq_false_of_toNat {c : Char} (hlow : 33 ≤ c.toNat) (hhigh : c.toNat ≤ 126) :
    isBlank c = false := by
  simp only [isBlank, Bool.or_eq_false_iff, Bool.and_eq_false_iff, decide_eq_false_iff_not,
    beq_eq_false_iff_ne]
  omega

theorem Spells.isBlank_eq_false (h : Spells n cs) : ∀ c ∈ cs, isBlank c = false := by
  obtain ⟨hsign, zeros⟩ := h
  have hdigit : ∀ c : Char, c.isDigit → isBlank c = false := fun c hc ↦
    have ⟨hlow, hhigh⟩ := toNat_of_isDigit hc
    isBlank_eq_false_of_toNat (by omega) (by omega)
  simp only [List.mem_append, List.mem_replicate]
  rintro c (hc | ⟨-, rfl⟩ | hc)
  · cases hsign with
    | none => exact absurd hc List.not_mem_nil
    | plus | minus =>
      obtain rfl := List.mem_singleton.mp hc
      exact isBlank_eq_false_of_toNat (by decide) (by decide)
  · exact hdigit '0' rfl
  · exact hdigit c (Nat.isDigit_of_mem_toDigits (by decide) (by decide) hc)

/-- Blanks at the ends are removed from what has none at its ends. -/
theorem trimList_append_append {before after : List Char} (hbefore : ∀ c ∈ before, isBlank c)
    (hafter : ∀ c ∈ after, isBlank c) (h : ∀ c ∈ cs, isBlank c = false) :
    trimList (before ++ cs ++ after) = cs := by
  rw [trimList, List.append_assoc, List.dropWhile_append_of_pos hbefore]
  cases cs with
  | nil =>
    rw [List.nil_append, ← List.append_nil after, List.dropWhile_append_of_pos hafter]
    rfl
  | cons c cs =>
    have hreverse : ∀ c ∈ after.reverse, isBlank c := fun c hc ↦ hafter c (List.mem_reverse.mp hc)
    rw [List.cons_append, List.dropWhile_cons_of_neg (by simp [h c (.head _)]), ← List.cons_append,
      List.reverse_append, List.dropWhile_append_of_pos hreverse,
      dropWhile_isBlank_eq_self fun c hc ↦ h c (List.mem_reverse.mp hc), List.reverse_reverse]

/-- The text spells the integer, with blanks around it. -/
def IsTextOf (n : Int) (s : String) : Prop :=
  ∃ before cs after, s.toList = before ++ cs ++ after ∧ (∀ c ∈ before, isBlank c) ∧
    (∀ c ∈ after, isBlank c) ∧ Spells n cs

theorem IsTextOf.trim_eq {s : String} (h : IsTextOf n s) :
    ∃ cs, Spells n cs ∧ trim s = String.ofList cs := by
  obtain ⟨before, cs, after, htext, hbefore, hafter, hcs⟩ := h
  refine ⟨cs, hcs, ?_⟩
  rw [trim, htext, trimList_append_append hbefore hafter hcs.isBlank_eq_false]

end RuleWatch.Text
