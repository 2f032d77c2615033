import Mathlib.Data.String.Basic
import RuleWatch.Text.Utf8

/-!
# The order of texts

Texts in the order of their characters are in the order of their bytes. The code of a character
begins with the one byte that says how many more there are, and the greater the character is the
greater is that byte; so the codes of two characters part at some byte, and the lesser character has
the lesser byte there.
-/

namespace RuleWatch.Text

/-! ## The bytes of a text -/

/-- What is left of the bytes is read after what has been read. -/
theorem toList_loop_eq (bytes : ByteArray) {i left : Nat} (h : i + left = bytes.size)
    (read : Bytes) :
    ByteArray.toList.loop bytes i read = read.reverse ++ bytes.data.toList.drop i := by
  have hlength : bytes.data.toList.length = bytes.size := Array.length_toList
  induction left generalizing i read with
  | zero =>
    rw [ByteArray.toList.loop, if_neg (by omega), List.drop_eq_nil_of_le (by omega),
      List.append_nil]
  | succ left ih =>
    have hlt : i < bytes.data.size := by
      change i < bytes.size
      omega
    have hget : bytes.get! i = bytes.data.toList[i] := getElem!_pos bytes.data i hlt
    rw [ByteArray.toList.loop, if_pos (by omega), ih (by omega), hget, List.reverse_cons,
      List.append_assoc, List.singleton_append, ← List.drop_eq_getElem_cons]

/-- The bytes of a text are the codes of its characters. -/
theorem toBytes_eq_flatMap (s : String) : toBytes s = s.toList.flatMap String.utf8EncodeChar := by
  have hbytes : s.toUTF8 = (s.toList.flatMap String.utf8EncodeChar).toByteArray :=
    String.utf8Encode_toList.symm
  rw [toBytes, ByteArray.toList, toList_loop_eq _ (Nat.zero_add _), hbytes,
    List.toList_data_toByteArray]
  rfl

/-- The code of an ASCII character is its number. -/
theorem utf8EncodeChar_of_lt {c : Char} (h : c.toNat < 128) :
    String.utf8EncodeChar c = [.ofNat c.toNat] := by
  have hval : c.val.toNat ≤ 0x7F := Nat.le_of_lt_succ h
  simp only [String.utf8EncodeChar, hval, if_true]
  rfl

/-- A byte is the number of the character that it is read as. -/
theorem toNat_ofNat_toNat {b : UInt8} : (Char.ofNat b.toNat).toNat = b.toNat := by
  have hall : ∀ n < 256, (Char.ofNat n).toNat = n := by decide +kernel
  exact hall b.toNat b.toNat_lt

/-! ## Codes that part -/

/-- The bytes agree for a while and then part, and the first of them have the lesser byte there. -/
inductive PartBelow : Bytes → Bytes → Prop
  | head {x y : UInt8} {xs ys : Bytes} (h : x < y) : PartBelow (x :: xs) (y :: ys)
  | tail {x : UInt8} {xs ys : Bytes} (h : PartBelow xs ys) : PartBelow (x :: xs) (x :: ys)

/-- What follows does not matter. -/
theorem PartBelow.append_lt {xs ys : Bytes} (h : PartBelow xs ys) (after after' : Bytes) :
    xs ++ after < ys ++ after' := by
  induction h with
  | head h => exact List.Lex.rel h
  | tail _ ih => exact List.Lex.cons ih

theorem PartBelow.of_toNat_lt {m n : Nat} (h : m < n) (hn : n < 256) {xs ys : Bytes} :
    PartBelow (.ofNat m :: xs) (.ofNat n :: ys) := by
  refine .head (UInt8.lt_iff_toNat_lt.mpr ?_)
  rw [UInt8.toNat_ofNat', UInt8.toNat_ofNat']
  omega

/-- The bytes that carry the last digits of a number in base 64, the greatest first. -/
def continuation : Nat → Nat → Bytes
  | 0, _ => []
  | k + 1, m => .ofNat (m / 64 ^ k % 64 + 0x80) :: continuation k m

/-- Numbers that agree in their first digits are told apart by the others. -/
theorem partBelow_continuation {k m n : Nat} (hlt : m < n) (h : m / 64 ^ k = n / 64 ^ k) :
    PartBelow (continuation k m) (continuation k n) := by
  induction k with
  | zero =>
    rw [Nat.pow_zero, Nat.div_one, Nat.div_one] at h
    exact absurd h (Nat.ne_of_lt hlt)
  | succ k ih =>
    have hle : m / 64 ^ k ≤ n / 64 ^ k := Nat.div_le_div_right (Nat.le_of_lt hlt)
    rw [Nat.pow_succ, ← Nat.div_div_eq_div_mul, ← Nat.div_div_eq_div_mul] at h
    unfold continuation
    by_cases heq : m / 64 ^ k = n / 64 ^ k
    · rw [heq]
      exact .tail (ih heq)
    · exact .of_toNat_lt (by omega) (by omega)

/-- How many bytes follow the first byte of a code. -/
def following (m : Nat) : Nat :=
  if m ≤ 0x7F then 0 else if m ≤ 0x7FF then 1 else if m ≤ 0xFFFF then 2 else 3

/-- The mark of a first byte that so many bytes follow. -/
def mark : Nat → Nat
  | 0 => 0
  | 1 => 0xC0
  | 2 => 0xE0
  | _ => 0xF0

/-- The first byte of a code: its mark, and the first digit in base 64. -/
def lead (m : Nat) : Nat :=
  m / 64 ^ following m + mark (following m)

/-- The first byte as it is written in codes of each length. -/
theorem lead_cases (m : Nat) :
    following m = 0 ∧ lead m = m ∧ m ≤ 0x7F ∨
      following m = 1 ∧ lead m = m / 64 + 0xC0 ∧ 0x7F < m ∧ m ≤ 0x7FF ∨
      following m = 2 ∧ lead m = m / 4096 + 0xE0 ∧ 0x7FF < m ∧ m ≤ 0xFFFF ∨
      following m = 3 ∧ lead m = m / 262144 + 0xF0 ∧ 0xFFFF < m := by
  unfold lead following
  split
  next h => exact .inl ⟨rfl, Nat.div_one m, h⟩
  split
  next h h' => exact .inr (.inl ⟨rfl, rfl, Nat.lt_of_not_le h, h'⟩)
  split
  next h h' => exact .inr (.inr (.inl ⟨rfl, rfl, Nat.lt_of_not_le h, h'⟩))
  next h => exact .inr (.inr (.inr ⟨rfl, rfl, Nat.lt_of_not_le h⟩))

/-- There are so many characters and no more. -/
theorem toNat_lt (c : Char) : c.toNat < 0x110000 := by
  have hvalid : c.toNat.isValidChar := c.valid
  unfold Nat.isValidChar at hvalid
  omega

/-- The code of a character is its first byte and those that carry the other digits. -/
theorem utf8EncodeChar_eq (c : Char) :
    String.utf8EncodeChar c =
      .ofNat (lead c.toNat) :: continuation (following c.toNat) c.toNat := by
  have hbound := toNat_lt c
  have hval : c.val.toNat = c.toNat := rfl
  unfold String.utf8EncodeChar
  rw [hval]
  generalize c.toNat = m at hbound
  obtain ⟨hm, hlead, h⟩ | ⟨hm, hlead, h, h'⟩ | ⟨hm, hlead, h, h'⟩ | ⟨hm, hlead, h⟩ := lead_cases m
  · simp [hm, hlead, continuation, h]
  · have hdigit : m / 64 % 32 = m / 64 := by omega
    have hlong : ¬ m ≤ 0x7F := by omega
    simp [hm, hlead, continuation, h', hlong, hdigit]
  · have hdigit : m / 4096 % 16 = m / 4096 := by omega
    have hlong : ¬ m ≤ 0x7FF := by omega
    have hlong' : ¬ m ≤ 0x7F := by omega
    simp [hm, hlead, continuation, h', hlong, hlong', hdigit]
  · have hdigit : m / 262144 % 8 = m / 262144 := by omega
    have hlong : ¬ m ≤ 0xFFFF := by omega
    have hlong' : ¬ m ≤ 0x7FF := by omega
    have hlong'' : ¬ m ≤ 0x7F := by omega
    simp [hm, hlead, continuation, hlong, hlong', hlong'', hdigit]

theorem lead_lt {m : Nat} (h : m < 0x110000) : lead m < 256 := by
  have hcases := lead_cases m
  omega

/-- A code that is longer has a greater first byte. -/
theorem lead_lt_lead_of_ne {m n : Nat} (h : m < n) (hn : n < 0x110000)
    (hne : following m ≠ following n) : lead m < lead n := by
  have hm := lead_cases m
  have hn := lead_cases n
  omega

theorem partBelow_utf8EncodeChar {c d : Char} (h : c < d) :
    PartBelow (String.utf8EncodeChar c) (String.utf8EncodeChar d) := by
  have hlt : c.toNat < d.toNat := h
  have hd : d.toNat < 0x110000 := toNat_lt d
  rw [utf8EncodeChar_eq, utf8EncodeChar_eq]
  by_cases hlength : following c.toNat = following d.toNat
  · have hle : c.toNat / 64 ^ following d.toNat ≤ d.toNat / 64 ^ following d.toNat :=
      Nat.div_le_div_right (Nat.le_of_lt hlt)
    rcases Nat.lt_or_eq_of_le hle with hdigit | hdigit
    · refine .of_toNat_lt ?_ (lead_lt hd)
      rw [lead, lead, hlength]
      exact Nat.add_lt_add_right hdigit _
    · rw [lead, lead, hlength, hdigit]
      exact .tail (partBelow_continuation hlt hdigit)
  · exact .of_toNat_lt (lead_lt_lead_of_ne hlt hd hlength) (lead_lt hd)

/-! ## Texts -/

theorem flatMap_lt_flatMap {cs ds : List Char} (h : cs < ds) :
    cs.flatMap String.utf8EncodeChar < ds.flatMap String.utf8EncodeChar := by
  induction h with
  | nil =>
    rw [List.flatMap_cons, utf8EncodeChar_eq, List.cons_append]
    exact List.Lex.nil
  | rel h =>
    rw [List.flatMap_cons, List.flatMap_cons]
    exact (partBelow_utf8EncodeChar h).append_lt ..
  | cons _ ih =>
    rw [List.flatMap_cons, List.flatMap_cons]
    exact List.append_left_lt ih

theorem toBytes_lt_toBytes {s t : String} (h : s < t) : toBytes s < toBytes t := by
  rw [toBytes_eq_flatMap, toBytes_eq_flatMap]
  exact flatMap_lt_flatMap h

/-- A text is before another if and only if its bytes are. -/
theorem toBytes_lt_iff {s t : String} : toBytes s < toBytes t ↔ s < t := by
  refine ⟨fun h ↦ ?_, toBytes_lt_toBytes⟩
  rcases lt_trichotomy s t with hlt | rfl | hgt
  · exact hlt
  · exact absurd h (List.lt_irrefl _)
  · exact absurd h (List.lt_asymm (toBytes_lt_toBytes hgt))

end RuleWatch.Text
