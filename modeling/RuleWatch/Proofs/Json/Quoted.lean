import RuleWatch.Json.Render
import RuleWatch.Json.Scan
import RuleWatch.Proofs.Text.Place
import RuleWatch.Proofs.Text.Snippet

/-!
# Strings as texts

A scan takes every character of a string that has been written for the bytes of the character,
whether it is escaped or not (`OpenString.more?_renderChar`). So the string is read again.
-/

namespace RuleWatch.Json

open String (utf8EncodeChar)

/-! ## Characters -/

/-- The characters that are escaped by a letter or as they are. -/
def isMarked (c : Char) : Bool :=
  c == '"' || c == '\\' || c == '\n' || c == '\r' || c == '\t' || c == '\x08' || c == '\x0c'

theorem renderChar_eq_self {c : Char} (hc : isMarked c = false) (hlow : 0x20 ≤ c.toNat) :
    renderChar c = [c] := by
  unfold isMarked at hc
  unfold renderChar
  split
  iterate 7 contradiction
  rw [if_neg (by omega)]

/-- All bytes of a character that is not of ASCII are none of ASCII. -/
theorem le_toNat_of_mem_utf8EncodeChar {c : Char} (hc : 128 ≤ c.toNat) {b : UInt8}
    (hb : b ∈ utf8EncodeChar c) : 128 ≤ b.toNat := by
  rw [Text.utf8EncodeChar_eq] at hb
  rcases List.mem_cons.mp hb with rfl | hb
  · have hlt := Text.lead_lt (Text.toNat_lt c)
    have hcases := Text.lead_cases c.toNat
    rw [UInt8.toNat_ofNat']
    omega
  · have hcontinues := Text.continues_of_mem_continuation hb
    simp only [Text.continues, Bool.and_eq_true, decide_eq_true_eq] at hcontinues
    omega

namespace OpenString

/-- A string that goes on with these bytes. -/
def more? (s : OpenString) : Bytes → Option OpenString
  | [] => some s
  | b :: bs => match s.next b with
    | .more s => more? s bs
    | _ => none

/-- A string without open escapes. -/
def plain (bytes : Bytes) : OpenString :=
  ⟨.plain, bytes, true, none⟩

theorem more?_append (s : OpenString) (bs bs' : Bytes) :
    s.more? (bs ++ bs') = s.more? bs >>= fun s ↦ s.more? bs' := by
  induction bs generalizing s with
  | nil => rfl
  | cons b bs ih =>
    rw [List.cons_append, more?, more?]
    split
    · exact ih _
    · rfl

theorem more?_cons {s s' : OpenString} {b : UInt8} (h : s.next b = .more s') (bs : Bytes) :
    s.more? (b :: bs) = s'.more? bs := by
  rw [more?, h]

theorem next_plain {b : UInt8} (hquote : b ≠ 0x22) (hescape : b ≠ 0x5C) (hlow : 0x20 ≤ b.toNat)
    (bytes : Bytes) : (plain bytes).next b = .more (plain (b :: bytes)) := by
  have hne {c : Char} {b' : UInt8} (hc : c.toNat = b'.toNat) (hb : b ≠ b') :
      Char.ofNat b.toNat ≠ c := fun heq ↦ hb <| UInt8.toNat_inj.mp <| by
    rw [← Text.toNat_ofNat_toNat, heq, hc]
  have hcontrol : ¬ b < 0x20 := Nat.not_lt.mpr hlow
  simp [next, plain, push, settle, hne (c := '"') rfl hquote, hne (c := '\\') rfl hescape, hcontrol]

/-- Bytes that are neither marked nor control characters are taken as they are. -/
theorem more?_plain {bs : Bytes} (h : ∀ b ∈ bs, b ≠ 0x22 ∧ b ≠ 0x5C ∧ 0x20 ≤ b.toNat)
    (bytes : Bytes) : (plain bytes).more? bs = some (plain (bs.reverse ++ bytes)) := by
  induction bs generalizing bytes with
  | nil => rfl
  | cons b bs ih =>
    obtain ⟨⟨hquote, hescape, hlow⟩, hbs⟩ := List.forall_mem_cons.mp h
    rw [more?_cons (next_plain hquote hescape hlow bytes), ih hbs]
    simp

theorem pushChar_plain (bytes : Bytes) (k : Nat) :
    (plain bytes).pushChar k = plain ((utf8EncodeChar (Char.ofNat k)).reverse ++ bytes) := by
  simp [pushChar, plain, Text.toBytes_eq_flatMap]

/-- An escape by number. -/
theorem more?_unit {b₁ b₀ : UInt8} {d₁ d₀ : Nat}
    (h₁ : Text.digitValue? 16 (Char.ofNat b₁.toNat) = some d₁)
    (h₀ : Text.digitValue? 16 (Char.ofNat b₀.toNat) = some d₀) (hlow : d₁ * 16 + d₀ < 0xD800)
    (bytes : Bytes) :
    (plain bytes).more? [0x5C, 0x75, 0x30, 0x30, b₁, b₀] =
      some ((plain bytes).pushChar (d₁ * 16 + d₀)) := by
  have hunit : ¬ (0xD800 ≤ d₁ * 16 + d₀ ∧ d₁ * 16 + d₀ ≤ 0xDBFF) ∧
      ¬ (0xDC00 ≤ d₁ * 16 + d₀ ∧ d₁ * 16 + d₀ ≤ 0xDFFF) := by omega
  have hhigh : next ⟨.hex 2 0, bytes, true, none⟩ b₁ = .more ⟨.hex 1 d₁, bytes, true, none⟩ := by
    simp [next, h₁]
  have hlast : next ⟨.hex 1 d₁, bytes, true, none⟩ b₀ =
      .more ((plain bytes).pushChar (d₁ * 16 + d₀)) := by
    simp [next, h₀, pushUnit, hunit, plain]
  calc (plain bytes).more? [0x5C, 0x75, 0x30, 0x30, b₁, b₀]
      = more? ⟨.hex 2 0, bytes, true, none⟩ [b₁, b₀] := rfl
    _ = some ((plain bytes).pushChar (d₁ * 16 + d₀)) := by
      rw [more?_cons hhigh, more?_cons hlast, more?]

/-- The digit of a value in base sixteen, as a byte. -/
def hexByte (d : Nat) : UInt8 :=
  .ofNat (Nat.digitChar d).toNat

theorem digitValue?_hexByte :
    ∀ d < 16, Text.digitValue? 16 (Char.ofNat (hexByte d).toNat) = some d := by
  decide

/-- A control character that has no letter is escaped by its number. -/
theorem flatMap_renderChar_of_lt : ∀ k < 0x20, isMarked (Char.ofNat k) = false →
    (renderChar (Char.ofNat k)).flatMap utf8EncodeChar =
      [0x5C, 0x75, 0x30, 0x30, hexByte (k / 16), hexByte (k % 16)] := by
  decide

/-- A character as it has been written is taken for its bytes. -/
theorem more?_renderChar (c : Char) (bytes : Bytes) :
    (plain bytes).more? ((renderChar c).flatMap utf8EncodeChar) =
      some (plain ((utf8EncodeChar c).reverse ++ bytes)) := by
  cases hmarked : isMarked c with
  | true =>
    simp only [isMarked, Bool.or_eq_true, beq_iff_eq] at hmarked
    rcases hmarked with (((((rfl | rfl) | rfl) | rfl) | rfl) | rfl) | rfl <;> rfl
  | false =>
    rcases Nat.lt_or_ge c.toNat 0x20 with hcontrol | hlow
    · have hcode := flatMap_renderChar_of_lt c.toNat hcontrol
      rw [Char.ofNat_toNat] at hcode
      have hdigits : c.toNat / 16 * 16 + c.toNat % 16 = c.toNat := Nat.div_add_mod' c.toNat 16
      rw [hcode hmarked, more?_unit (digitValue?_hexByte _ (by omega))
        (digitValue?_hexByte _ (by omega)) (by omega), hdigits, pushChar_plain, Char.ofNat_toNat]
    · rw [renderChar_eq_self hmarked hlow, List.flatMap_singleton]
      refine more?_plain (fun b hb ↦ ?_) bytes
      rcases Nat.lt_or_ge c.toNat 128 with hlt | hge
      · rw [Text.utf8EncodeChar_of_lt hlt, List.mem_singleton] at hb
        have hchar : Char.ofNat b.toNat = c := hb ▸ Text.ofNat_toNat_of_lt hlt
        refine ⟨?_, ?_, ?_⟩
        · rintro rfl
          rw [← hchar] at hmarked
          contradiction
        · rintro rfl
          rw [← hchar] at hmarked
          contradiction
        · rwa [← hchar, Text.toNat_ofNat_toNat] at hlow
      · have hnone := le_toNat_of_mem_utf8EncodeChar hge hb
        refine ⟨?_, ?_, by omega⟩ <;> rintro rfl <;> contradiction

theorem more?_flatMap (cs : List Char) (bytes : Bytes) :
    (plain bytes).more? ((cs.flatMap renderChar).flatMap utf8EncodeChar) =
      some (plain ((cs.flatMap utf8EncodeChar).reverse ++ bytes)) := by
  induction cs generalizing bytes with
  | nil => rfl
  | cons c cs ih =>
    rw [List.flatMap_cons, List.flatMap_append, more?_append, more?_renderChar,
      Option.bind_eq_bind, Option.bind_some, ih]
    simp

/-- Between its quotes a string is read again. -/
theorem exists_more? (s : String) :
    ∃ o, empty.more? ((s.toList.flatMap renderChar).flatMap utf8EncodeChar) = some o ∧
      o.next 0x22 = .closed (some s) := by
  refine ⟨_, more?_flatMap s.toList [], ?_⟩
  have htext : (plain (Text.toBytes s).reverse).text? = some s := by
    simp [text?, plain, settle, Text.ofBytes?_eq_some_iff]
  rw [List.append_nil, ← Text.toBytes_eq_flatMap, ← htext]
  rfl

end OpenString

end RuleWatch.Json
