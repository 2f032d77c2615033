import Mathlib.Data.Char
import RuleWatch.Text.Lowercase

/-!
# Small letters

No capital letter of the ASCII alphabet is left in a text in small letters, and no NUL comes into
it. Without capital letters beyond ASCII, the full Unicode rules do what `Char.toLower` does.
-/

namespace RuleWatch.Text

variable {c : Char} {s : String} {cs : List Char}

/-! ## ASCII letters -/

/-- A capital letter of the ASCII alphabet stands 32 before its small letter. -/
theorem toNat_toLower (c : Char) :
    c.toLower.toNat = if 65 ≤ c.toNat ∧ c.toNat ≤ 90 then c.toNat + 32 else c.toNat := by
  have hiff : c.val ≥ 'A'.val ∧ c.val ≤ 'Z'.val ↔ 65 ≤ c.toNat ∧ c.toNat ≤ 90 := by
    rw [ge_iff_le, UInt32.le_iff_toNat_le, UInt32.le_iff_toNat_le]
    rfl
  unfold Char.toLower
  split
  next h =>
    rw [if_pos (hiff.mp h)]
    change (c.val + 32).toNat = c.val.toNat + 32
    have hle : c.val.toNat ≤ 90 := (hiff.mp h).2
    rw [UInt32.toNat_add]
    exact Nat.mod_eq_of_lt (by
      change c.val.toNat + 32 < 2 ^ 32
      omega)
  next h => rw [if_neg (hiff.not.mp h)]

/-- The character is no capital letter of the ASCII alphabet. -/
theorem toLower_eq_self_iff : c.toLower = c ↔ ¬ (65 ≤ c.toNat ∧ c.toNat ≤ 90) := by
  rw [← Char.toNat_inj, toNat_toLower]
  split <;> simp_all

theorem toLower_toLower (c : Char) : c.toLower.toLower = c.toLower := by
  have hsmall := toNat_toLower c
  rw [toLower_eq_self_iff]
  split at hsmall <;> omega

theorem toLower_eq_nul_iff : c.toLower = '\x00' ↔ c = '\x00' := by
  have hsmall := toNat_toLower c
  rw [← Char.toNat_inj, ← Char.toNat_inj (c := c)]
  change c.toLower.toNat = 0 ↔ c.toNat = 0
  split at hsmall <;> omega

/-! ## All letters -/

theorem toNat_ofNat {n : Nat} (h : n.isValidChar) : (Char.ofNat n).toNat = n := by
  rw [Char.ofNat, dif_pos h]
  rfl

namespace Property

/-- The small letters beyond ASCII are neither capital letters of the ASCII alphabet nor NUL. -/
theorem smallLetterRuns_le : ∀ run ∈ smallLetterRuns, run.2.1 < 0x80 ∨ 0x5A < run.1 + run.2.2.2 ∧
    (run.2.1 + run.2.2.2 < 0xD800 ∨
      0xDFFF < run.1 + run.2.2.2 ∧ run.2.1 + run.2.2.2 < 0x110000) := by
  decide +kernel

/-- A small letter is an ASCII character like `Char.toLower`, or it comes after the capitals. -/
theorem smallLetter_cases (c : Char) :
    smallLetter c = c.toLower ∨ 0x5A < (smallLetter c).toNat := by
  unfold smallLetter
  split
  · exact .inl rfl
  next hge =>
  refine .inr ?_
  split
  next low high step distance hfound =>
    have hmem := List.mem_of_find?_eq_some hfound
    have hrange := List.find?_some hfound
    simp only [Bool.and_eq_true, decide_eq_true_eq] at hrange
    have hrun := smallLetterRuns_le _ hmem
    dsimp only at hrun
    have hvalid : (c.toNat + distance).toNat.isValidChar := by
      unfold Nat.isValidChar
      omega
    rw [toNat_ofNat hvalid]
    omega
  next => omega

theorem toLower_smallLetter (c : Char) : (smallLetter c).toLower = smallLetter c := by
  rcases smallLetter_cases c with h | h
  · rw [h, toLower_toLower]
  · exact toLower_eq_self_iff.mpr (by omega)

theorem smallLetter_ne_nul (h : c ≠ '\x00') : smallLetter c ≠ '\x00' := by
  rcases smallLetter_cases c with hc | hc
  · rw [hc]
    exact toLower_eq_nul_iff.not.mpr h
  · intro heq
    rw [heq] at hc
    contradiction

end Property

/-- A small letter is one that a character gives, or one of the few that the special rules give. -/
theorem mem_lowercaseList {before : List Char} {x : Char} (h : x ∈ lowercaseList before cs) :
    (∃ c ∈ cs, x = Property.smallLetter c) ∨ x ∈ ['ς', 'σ', 'i', Char.ofNat 0x307] := by
  induction cs generalizing before with
  | nil => contradiction
  | cons c cs ih =>
    rcases List.mem_append.mp h with hc | hcs
    · unfold lowercaseChar at hc
      split at hc
      · split at hc <;> simp_all
      split at hc
      · simp_all
      · exact .inl ⟨c, .head _, List.mem_singleton.mp hc⟩
    · refine (ih hcs).imp_left ?_
      rintro ⟨d, hd, rfl⟩
      exact ⟨d, .tail _ hd, rfl⟩

/-- No capital letter of the ASCII alphabet is left. -/
theorem toLower_eq_of_mem_lowercase (h : c ∈ (lowercase s).toList) : c.toLower = c := by
  rw [lowercase, String.toList_ofList] at h
  rcases mem_lowercaseList h with ⟨d, -, rfl⟩ | h
  · exact Property.toLower_smallLetter d
  · simp only [List.mem_cons, List.not_mem_nil, or_false] at h
    obtain rfl | rfl | rfl | rfl := h <;> decide

/-- No NUL comes in. -/
theorem nul_notMem_lowercase (h : '\x00' ∉ s.toList) : '\x00' ∉ (lowercase s).toList := by
  rw [lowercase, String.toList_ofList]
  intro hmem
  rcases mem_lowercaseList hmem with ⟨c, hc, heq⟩ | hspecial
  · exact Property.smallLetter_ne_nul (fun hnul ↦ h (hnul ▸ hc)) heq.symm
  · revert hspecial
    decide

/-! ## Capital letters beyond ASCII -/

/-- The character is a capital letter that only the full rules make small. -/
def isWideCapital (c : Char) : Bool :=
  128 ≤ c.toNat && lowercaseChar [] c [] != [c]

theorem toLower_eq_self_of_le (h : 128 ≤ c.toNat) : c.toLower = c :=
  toLower_eq_self_iff.mpr (by omega)

theorem isWideCapital_of_lt (h : c.toNat < 128) : isWideCapital c = false :=
  Bool.and_eq_false_imp.mpr fun hle ↦ absurd (of_decide_eq_true hle) (Nat.not_le_of_lt h)

/-- Any other character has one small form, and `Char.toLower` gives it. -/
theorem lowercaseChar_eq_toLower (h : isWideCapital c = false) (before after : List Char) :
    lowercaseChar before c after = [c.toLower] := by
  have hsigma : c ≠ 'Σ' := by
    rintro rfl
    revert h
    decide
  have hdotted : c ≠ 'İ' := by
    rintro rfl
    revert h
    decide
  rw [lowercaseChar, if_neg hsigma, if_neg hdotted]
  rcases Nat.lt_or_ge c.toNat 128 with hlt | hge
  · rw [Property.smallLetter, if_pos hlt]
  · simpa [isWideCapital, hge, lowercaseChar, hsigma, hdotted, toLower_eq_self_of_le hge] using h

/-- Without such letters the full rules are the simple ones. -/
theorem lowercase_eq_map (h : ∀ c ∈ s.toList, isWideCapital c = false) :
    (lowercase s).toList = s.toList.map Char.toLower := by
  suffices hall : ∀ before, lowercaseList before s.toList = s.toList.map Char.toLower by
    rw [lowercase, String.toList_ofList, hall]
  generalize s.toList = cs at h
  induction cs with
  | nil => exact fun _ ↦ rfl
  | cons c cs ih =>
    intro before
    rw [lowercaseList, lowercaseChar_eq_toLower (h c (.head _)), ih fun d hd ↦ h d (.tail _ hd)]
    rfl

theorem length_lowercaseChar_pos (before : List Char) (c : Char) (after : List Char) :
    0 < (lowercaseChar before c after).length := by
  unfold lowercaseChar
  split
  · split <;> exact Nat.zero_lt_one
  · split
    · exact Nat.zero_lt_two
    · exact Nat.zero_lt_one

/-- Small forms are no fewer than the characters. -/
theorem length_le_lowercaseList (before cs : List Char) :
    cs.length ≤ (lowercaseList before cs).length := by
  induction cs generalizing before with
  | nil => exact Nat.zero_le _
  | cons c cs ih =>
    have hpos := length_lowercaseChar_pos before c cs
    have hle := ih (c :: before)
    rw [lowercaseList, List.length_append, List.length_cons]
    omega

end RuleWatch.Text
