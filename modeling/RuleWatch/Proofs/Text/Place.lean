import RuleWatch.Proofs.Text.ByteOrder

/-!
# Places in a text

A place in a text is given by the number of bytes before it, and a text can be cut there unless the
place is inside a character or beyond the end. After ASCII characters there is always a place to
cut, which can be found by looking at single bytes: such a character is one byte, and no other
character begins with a byte like it.
-/

namespace RuleWatch.Text

/-- The characters before and after a place that is given in bytes, unless it is inside a character
or beyond the end. -/
def splitAtByte? : Nat → List Char → Option (List Char × List Char)
  | 0, cs => some ([], cs)
  | _ + 1, [] => none
  | n + 1, c :: cs =>
    if c.utf8Size ≤ n + 1 then
      (splitAtByte? (n + 1 - c.utf8Size) cs).map fun (before, after) ↦ (c :: before, after)
    else none

/-- How many bytes at the beginning of a text are of a kind, each of them taken for a character. -/
def countBytes (p : Char → Bool) (cs : List Char) : Nat :=
  ((toBytes (String.ofList cs)).takeWhile fun b ↦ p (Char.ofNat b.toNat)).length

variable {p : Char → Bool} {cs : List Char}

/-- A character that is not of ASCII begins with a byte that is none either. -/
theorem exists_lead {c : Char} (h : 128 ≤ c.toNat) :
    ∃ b bs, String.utf8EncodeChar c = b :: bs ∧ 128 ≤ b.toNat := by
  refine ⟨_, _, utf8EncodeChar_eq c, ?_⟩
  have hlt := lead_lt (toNat_lt c)
  have hcases := lead_cases c.toNat
  rw [UInt8.toNat_ofNat']
  omega

/-- A character of ASCII is what its one byte is read as. -/
theorem ofNat_toNat_of_lt {c : Char} (h : c.toNat < 128) :
    Char.ofNat (UInt8.ofNat c.toNat).toNat = c := by
  rw [UInt8.toNat_ofNat', Nat.mod_eq_of_lt (by omega), Char.ofNat_toNat]

/-- A byte that is none of ASCII is not read as a character of ASCII. -/
theorem eq_false_of_le (hp : ∀ c, p c → c.toNat < 128) {b : UInt8} (h : 128 ≤ b.toNat) :
    p (Char.ofNat b.toNat) = false := by
  refine Bool.eq_false_iff.mpr fun hpasses ↦ ?_
  have hlt := hp _ hpasses
  rw [toNat_ofNat_toNat] at hlt
  omega

/-- The bytes of ASCII characters are as many as the characters. -/
theorem countBytes_eq (hp : ∀ c, p c → c.toNat < 128) (cs : List Char) :
    countBytes p cs = (cs.takeWhile p).length := by
  rw [countBytes, toBytes_eq_flatMap, String.toList_ofList]
  induction cs with
  | nil => rfl
  | cons c cs ih =>
    rw [List.flatMap_cons]
    rcases Nat.lt_or_ge c.toNat 128 with hlt | hge
    · rw [utf8EncodeChar_of_lt hlt, List.singleton_append, List.takeWhile_cons,
        ofNat_toNat_of_lt hlt, List.takeWhile_cons]
      cases p c with
      | true => exact congrArg (· + 1) ih
      | false => rfl
    · obtain ⟨b, bs, heq, hb⟩ := exists_lead hge
      have hc : p c = false := Bool.eq_false_iff.mpr fun h ↦ Nat.not_le_of_lt (hp c h) hge
      rw [heq, List.cons_append, List.takeWhile_cons, eq_false_of_le hp hb, List.takeWhile_cons, hc]
      rfl

/-- Single bytes tell whether all characters of a text are of a kind within ASCII. -/
theorem forall_mem_toBytes_iff (hp : ∀ c, p c → c.toNat < 128) {s : String} :
    (∀ b ∈ toBytes s, p (Char.ofNat b.toNat)) ↔ ∀ c ∈ s.toList, p c := by
  have hchar : ∀ c, (∀ b ∈ String.utf8EncodeChar c, p (Char.ofNat b.toNat)) ↔ p c := by
    intro c
    rcases Nat.lt_or_ge c.toNat 128 with hlt | hge
    · rw [utf8EncodeChar_of_lt hlt, List.forall_mem_singleton, ofNat_toNat_of_lt hlt]
    · obtain ⟨b, bs, heq, hb⟩ := exists_lead hge
      refine iff_of_false (fun hall ↦ ?_) fun h ↦ Nat.not_le_of_lt (hp c h) hge
      simpa [eq_false_of_le hp hb] using hall b (heq ▸ .head _)
  rw [toBytes_eq_flatMap, List.forall_mem_flatMap]
  exact forall₂_congr fun c _ ↦ hchar c

/-- A text of ASCII characters has as many bytes. -/
theorem length_toBytes {s : String} (h : ∀ c ∈ s.toList, c.toNat < 128) :
    (toBytes s).length = s.length := by
  have hone : ∀ c ∈ s.toList, (String.utf8EncodeChar c).length = 1 := fun c hc ↦ by
    rw [utf8EncodeChar_of_lt (h c hc), List.length_singleton]
  rw [toBytes_eq_flatMap, List.length_flatMap, List.map_congr_left hone, List.map_const',
    List.sum_replicate_nat, Nat.mul_one, String.length_toList]

/-- A text can be cut after ASCII characters. -/
theorem splitAtByte?_takeWhile (hp : ∀ c, p c → c.toNat < 128) (cs : List Char) :
    splitAtByte? (cs.takeWhile p).length cs = some (cs.takeWhile p, cs.dropWhile p) := by
  induction cs with
  | nil => rfl
  | cons c cs ih =>
    rw [List.takeWhile_cons, List.dropWhile_cons]
    cases hc : p c with
    | false => rfl
    | true =>
      have hsize : c.utf8Size = 1 := Char.utf8Size_eq_one_iff.mpr (by
        rw [UInt32.le_iff_toNat_le]
        exact Nat.le_of_lt_succ (hp c hc))
      simp only [if_true, List.length_cons, splitAtByte?, hsize, Nat.le_add_left,
        Nat.add_sub_cancel, ih, Option.map_some]

/-! ## Characters of ASCII -/

theorem toNat_of_isDigit {c : Char} (h : c.isDigit) : 48 ≤ c.toNat ∧ c.toNat ≤ 57 := by
  simp only [Char.isDigit, Bool.and_eq_true, decide_eq_true_eq, ge_iff_le,
    UInt32.le_iff_toNat_le] at h
  exact h

theorem toNat_of_isAlpha {c : Char} (h : c.isAlpha) : 65 ≤ c.toNat ∧ c.toNat ≤ 122 := by
  have hcase : c.isUpper ∨ c.isLower := Bool.or_eq_true_iff.mp h
  rcases hcase with hupper | hlower
  · have hrange : 'A'.val ≤ c.val ∧ c.val ≤ 'Z'.val := of_decide_eq_true hupper
    exact ⟨hrange.1, Nat.le_trans hrange.2 (by decide)⟩
  · obtain ⟨hlow, hhigh⟩ := Bool.and_eq_true_iff.mp hlower
    have hrange : 'a'.val ≤ c.val ∧ c.val ≤ 'z'.val :=
      ⟨of_decide_eq_true hlow, of_decide_eq_true hhigh⟩
    exact ⟨Nat.le_trans (by decide) hrange.1, hrange.2⟩

end RuleWatch.Text
