import RuleWatch.Http.Trace
import RuleWatch.Proofs.Text.ByteOrder

/-!
# Which texts are trace ids

A trace id is one that a client may give (`IsPlainId`), or the numerals of random bytes in base
sixteen, one after another and each with two digits (`IsHexOf`).
-/

namespace RuleWatch.Http.Trace

open Text (toBytes toBytes_eq_flatMap utf8EncodeChar_of_lt toNat_ofNat_toNat)

/-! ## Ids that clients give -/

/-- An ASCII letter, a digit, a hyphen or an underscore. -/
def isPlainChar (c : Char) : Bool :=
  c.isAlphanum || c == '-' || c == '_'

/-- A text that a client may give as a trace id. -/
def IsPlainId (id : String) : Prop :=
  1 ≤ id.length ∧ id.length ≤ 64 ∧ ∀ c ∈ id.toList, isPlainChar c

theorem toNat_lt_of_isPlainChar {c : Char} (h : isPlainChar c) : c.toNat < 128 := by
  change ((((decide (c.val ≥ 'A'.val ∧ c.val ≤ 'Z'.val) || (c.val ≥ 'a'.val && c.val ≤ 'z'.val)) ||
    (c.val ≥ '0'.val && c.val ≤ '9'.val)) || c == '-') || c == '_') = true at h
  simp only [Bool.or_eq_true, Bool.and_eq_true, decide_eq_true_eq, beq_iff_eq, ge_iff_le,
    UInt32.le_iff_toNat_le] at h
  change ((((65 ≤ c.toNat ∧ c.toNat ≤ 90) ∨ (97 ≤ c.toNat ∧ c.toNat ≤ 122)) ∨
    (48 ≤ c.toNat ∧ c.toNat ≤ 57)) ∨ c = '-') ∨ c = '_' at h
  rcases h with (h | rfl) | rfl
  · omega
  · decide
  · decide

/-- A plain byte is the code of a plain character. -/
theorem isPlain_eq (b : UInt8) : isPlain b = isPlainChar (Char.ofNat b.toNat) := by
  have hall : ∀ n < 256, isPlain (UInt8.ofNat n) = isPlainChar (Char.ofNat n) := by decide +kernel
  simpa using hall b.toNat b.toNat_lt

/-- Plain characters are written as their numbers, each in one byte. -/
theorem toBytes_eq_map {s : String} (h : ∀ c ∈ s.toList, isPlainChar c) :
    toBytes s = s.toList.map fun c ↦ .ofNat c.toNat := by
  rw [toBytes_eq_flatMap, List.map_eq_flatMap]
  exact List.flatMap_congr fun c hc ↦ utf8EncodeChar_of_lt (toNat_lt_of_isPlainChar (h c hc))

/-- Plain bytes are the code of the text that they are read as. -/
theorem toBytes_ofPlain {value : Bytes} (h : ∀ b ∈ value, isPlain b) :
    (∀ c ∈ (ofPlain value).toList, isPlainChar c) ∧ toBytes (ofPlain value) = value := by
  have hchars : ∀ c ∈ (ofPlain value).toList, isPlainChar c := by
    intro c hc
    rw [ofPlain, String.toList_ofList, List.mem_map] at hc
    obtain ⟨b, hb, rfl⟩ := hc
    rw [← isPlain_eq]
    exact h b hb
  refine ⟨hchars, ?_⟩
  rw [toBytes_eq_map hchars, ofPlain, String.toList_ofList, List.map_map]
  simp [Function.comp_def, toNat_ofNat_toNat]

/-- A plain text has a code of plain bytes, and is what they are read as. -/
theorem ofPlain_toBytes {s : String} (h : ∀ c ∈ s.toList, isPlainChar c) :
    (∀ b ∈ toBytes s, isPlain b) ∧ ofPlain (toBytes s) = s := by
  have hback : ∀ c ∈ s.toList, Char.ofNat (UInt8.ofNat c.toNat).toNat = c := by
    intro c hc
    have hlt : c.toNat < UInt8.size :=
      Nat.lt_trans (toNat_lt_of_isPlainChar (h c hc)) (by decide)
    rw [UInt8.toNat_ofNat_of_lt' hlt, Char.ofNat_toNat]
  rw [toBytes_eq_map h]
  constructor
  · intro b hb
    obtain ⟨c, hc, rfl⟩ := List.mem_map.mp hb
    rw [isPlain_eq, hback c hc]
    exact h c hc
  · calc ofPlain (s.toList.map fun c ↦ .ofNat c.toNat)
        = String.ofList (s.toList.map fun c ↦ Char.ofNat (UInt8.ofNat c.toNat).toNat) := by
          rw [ofPlain, List.map_map]
          rfl
      _ = String.ofList s.toList := by rw [List.map_congr_left hback, List.map_id']
      _ = s := String.ofList_toList

/-- A request comes with an id if the first value of its header is the text of one. -/
theorem inbound?_eq_some_iff {r : Request} {id : String} :
    inbound? r = some id ↔ IsPlainId id ∧ r.header? header = some (toBytes id) := by
  constructor
  · intro h
    unfold inbound? at h
    split at h
    · contradiction
    next value hvalue =>
      rw [Option.ite_none_right_eq_some, Option.some.injEq] at h
      obtain ⟨hplain, rfl⟩ := h
      simp only [Bool.and_eq_true, decide_eq_true_eq, List.all_eq_true] at hplain
      obtain ⟨hchars, hbytes⟩ := toBytes_ofPlain hplain.2
      have hlength : (ofPlain value).length = value.length := by
        rw [ofPlain, String.length_ofList, List.length_map]
      refine ⟨⟨?_, ?_, hchars⟩, ?_⟩
      · exact hlength ▸ hplain.1.1
      · exact hlength ▸ hplain.1.2
      · rw [hvalue, hbytes]
  · rintro ⟨⟨hpos, hmax, hchars⟩, hvalue⟩
    obtain ⟨hplain, htext⟩ := ofPlain_toBytes hchars
    have hlength : (toBytes id).length = id.length := by
      rw [toBytes_eq_map hchars, List.length_map, String.length_toList]
    have hall : (toBytes id).all isPlain := List.all_eq_true.mpr hplain
    simp only [inbound?, hvalue, hlength, htext, maxLength, hpos, hmax, hall, decide_true,
      Bool.and_self, if_true]

/-! ## Ids of random bytes -/

/-- The digits of base sixteen, in small letters. -/
def hexDigits : String := "0123456789abcdef"

/-- The text is the numerals of eight bytes in base sixteen, each of them with two digits. -/
def IsHexOf (id : String) (bytes : Vector UInt8 8) : Prop :=
  id.length = 16 ∧ (∀ c ∈ id.toList, c ∈ hexDigits.toList) ∧
    id.toList = bytes.toList.flatMap fun b ↦ (Nat.toDigits 16 b.toNat).leftpad 2 '0'

theorem hexPair_eq (b : UInt8) : hexPair b = (Nat.toDigits 16 b.toNat).leftpad 2 '0' := by
  have hall : ∀ n < 256, hexPair (.ofNat n) = (Nat.toDigits 16 n).leftpad 2 '0' := by
    decide +kernel
  simpa using hall b.toNat b.toNat_lt

theorem mem_hexDigits {n : Nat} (h : n < 16) : hexDigit n ∈ hexDigits.toList := by
  have hall : ∀ n < 16, hexDigit n ∈ hexDigits.toList := by decide +kernel
  exact hall n h

theorem isHexOf_ofRandom (bytes : Vector UInt8 drawLength) : IsHexOf (ofRandom bytes) bytes := by
  refine ⟨?_, fun c hc ↦ ?_, ?_⟩
  · rw [ofRandom, String.length_ofList, List.length_flatMap]
    simp only [hexPair, List.length_cons, List.length_nil, List.map_const', List.sum_replicate_nat,
      Vector.length_toList]
    rfl
  · rw [ofRandom, String.toList_ofList, List.mem_flatMap] at hc
    obtain ⟨b, -, hb⟩ := hc
    rw [hexPair, List.mem_pair] at hb
    rcases hb with rfl | rfl
    · exact mem_hexDigits (Nat.div_lt_of_lt_mul b.toNat_lt)
    · exact mem_hexDigits (Nat.mod_lt _ (by decide))
  · rw [ofRandom, String.toList_ofList]
    exact List.flatMap_congr fun b _ ↦ hexPair_eq b

end RuleWatch.Http.Trace
