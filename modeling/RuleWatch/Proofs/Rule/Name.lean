import RuleWatch.Proofs.Text.Place
import RuleWatch.Rule.Check

/-!
# Names of rules

The check of a name goes through its bytes and counts them. A character beyond ASCII has a code that
does not pass, and every other character is one byte; so the check is one of the characters, and the
bytes that it counts are characters (`isName_iff_isWord`).
-/

namespace RuleWatch.Rule

/-- A letter from `A` to `Z` or from `a` to `z`, a digit, or an underscore. -/
def IsWordChar (c : Char) : Prop :=
  'A' ≤ c ∧ c ≤ 'Z' ∨ 'a' ≤ c ∧ c ≤ 'z' ∨ '0' ≤ c ∧ c ≤ '9' ∨ c = '_'

/-- One to sixty-four characters, each a letter, a digit or an underscore. -/
def IsWord (s : String) : Prop :=
  1 ≤ s.length ∧ s.length ≤ 64 ∧ ∀ c ∈ s.toList, IsWordChar c

variable {c : Char} {name : String}

theorem isNameChar_iff : isNameChar c ↔ IsWordChar c := by
  change ((((decide (c.val ≥ 'A'.val ∧ c.val ≤ 'Z'.val) || (c.val ≥ 'a'.val && c.val ≤ 'z'.val)) ||
    (c.val ≥ '0'.val && c.val ≤ '9'.val)) || c == '_') = true) ↔
    'A'.val ≤ c.val ∧ c.val ≤ 'Z'.val ∨ 'a'.val ≤ c.val ∧ c.val ≤ 'z'.val ∨
      '0'.val ≤ c.val ∧ c.val ≤ '9'.val ∨ c = '_'
  simp only [Bool.or_eq_true, Bool.and_eq_true, decide_eq_true_eq, beq_iff_eq, ge_iff_le, or_assoc]

/-- The characters of names are between the digits and the small letters. -/
theorem IsWordChar.toNat_le (h : IsWordChar c) : 48 ≤ c.toNat ∧ c.toNat ≤ 122 := by
  have hrange {low high : Char} (h : low ≤ c ∧ c ≤ high) :
      low.toNat ≤ c.toNat ∧ c.toNat ≤ high.toNat :=
    ⟨UInt32.le_iff_toNat_le.mp h.1, UInt32.le_iff_toNat_le.mp h.2⟩
  rcases h with h | h | h | rfl
  case inr.inr.inr => decide
  all_goals exact ⟨Nat.le_trans (by decide) (hrange h).1, Nat.le_trans (hrange h).2 (by decide)⟩

theorem toNat_lt_of_isNameChar (h : isNameChar c) : c.toNat < 128 :=
  Nat.lt_of_le_of_lt (isNameChar_iff.mp h).toNat_le.2 (by decide)

/-- A name is checked as if its characters were looked at one by one. -/
theorem isName_iff_isWord : isName name ↔ IsWord name := by
  have hchars : (∀ b ∈ Text.toBytes name, isNameChar (Char.ofNat b.toNat)) ↔
      ∀ c ∈ name.toList, IsWordChar c :=
    (Text.forall_mem_toBytes_iff fun _ ↦ toNat_lt_of_isNameChar).trans
      (forall₂_congr fun _ _ ↦ isNameChar_iff)
  simp only [isName, IsWord, Bool.and_eq_true, decide_eq_true_eq, List.all_eq_true, hchars,
    and_assoc]
  -- where all characters pass, each of them is one byte
  have hlength (h : ∀ c ∈ name.toList, IsWordChar c) :
      (Text.toBytes name).length = name.length :=
    Text.length_toBytes fun c hc ↦ toNat_lt_of_isNameChar (isNameChar_iff.mpr (h c hc))
  constructor
  · rintro ⟨hlow, hhigh, h⟩
    rw [hlength h] at hlow hhigh
    exact ⟨hlow, hhigh, h⟩
  · rintro ⟨hlow, hhigh, h⟩
    rw [hlength h]
    exact ⟨hlow, hhigh, h⟩

end RuleWatch.Rule
