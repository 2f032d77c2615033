/-!
# Bytes and text

Reading bytes as UTF-8: strictly, or with the replacement character in place of what is no UTF-8;
and the number of bytes that a text takes, with the longest prefix that fits a number of bytes.
-/

namespace RuleWatch

/-- Bytes as they come over a connection or out of a file. -/
abbrev Bytes := List UInt8

namespace Text

/-- The bytes of a text in UTF-8. -/
def toBytes (s : String) : Bytes :=
  s.toUTF8.toList

/-- The text that the bytes are in UTF-8, if they are one. -/
def ofBytes? (bytes : Bytes) : Option String :=
  String.fromUTF8? (ByteArray.mk bytes.toArray)

/-- How many bytes the characters take. -/
def utf8Length : List Char → Nat
  | [] => 0
  | c :: cs => c.utf8Size + utf8Length cs

/-- The characters that fit in `room` bytes, each whole, from the start on. -/
def takeFitting : Nat → List Char → List Char
  | _, [] => []
  | room, c :: cs =>
    if c.utf8Size ≤ room then c :: takeFitting (room - c.utf8Size) cs else []

/-- Where a reader of UTF-8 stands inside a character: how many bytes are owed, the range that the
next one must lie in, and the bits read so far. -/
structure Pending where
  owed : Nat
  low : Nat
  high : Nat
  bits : Nat

/-- What a first byte of a longer character asks of the bytes that follow it. -/
def Pending.ofLead? (b : Nat) : Option Pending :=
  if 0xC2 ≤ b ∧ b ≤ 0xDF then some ⟨1, 0x80, 0xBF, b - 0xC0⟩
  else if b = 0xE0 then some ⟨2, 0xA0, 0xBF, 0⟩
  else if b = 0xED then some ⟨2, 0x80, 0x9F, 0xD⟩
  else if 0xE1 ≤ b ∧ b ≤ 0xEF then some ⟨2, 0x80, 0xBF, b - 0xE0⟩
  else if b = 0xF0 then some ⟨3, 0x90, 0xBF, 0⟩
  else if b = 0xF4 then some ⟨3, 0x80, 0x8F, 4⟩
  else if 0xF1 ≤ b ∧ b ≤ 0xF3 then some ⟨3, 0x80, 0xBF, b - 0xF0⟩
  else none

/-- The replacement character. -/
def replacement : Char := Char.ofNat 0xFFFD

/-- One byte read where no character is open. -/
def startChar (b : UInt8) : List Char × Option Pending :=
  if b.toNat < 0x80 then ([Char.ofNat b.toNat], none)
  else match Pending.ofLead? b.toNat with
    | some p => ([], some p)
    | none => ([replacement], none)

/-- Reads bytes as UTF-8 with one replacement character for each longest run of bytes that starts a
character and does not finish it, and for each byte that starts none. -/
def lossyList : Option Pending → Bytes → List Char
  | none, [] => []
  | some _, [] => [replacement]
  | none, b :: bs =>
    let (out, next) := startChar b
    out ++ lossyList next bs
  | some p, b :: bs =>
    if p.low ≤ b.toNat ∧ b.toNat ≤ p.high then
      let bits := p.bits * 64 + (b.toNat - 0x80)
      if p.owed = 1 then Char.ofNat bits :: lossyList none bs
      else lossyList (some ⟨p.owed - 1, 0x80, 0xBF, bits⟩) bs
    else
      let (out, next) := startChar b
      replacement :: (out ++ lossyList next bs)

/-- The bytes as a text, with replacement characters for what is no UTF-8. -/
def ofBytesLossy (bytes : Bytes) : String :=
  String.ofList (lossyList none bytes)

theorem takeFitting_isPrefix (room : Nat) (cs : List Char) : takeFitting room cs <+: cs := by
  induction cs generalizing room with
  | nil => simp [takeFitting]
  | cons c cs ih =>
    unfold takeFitting
    split
    · exact List.prefix_cons_inj c |>.mpr (ih _)
    · exact List.nil_prefix

end Text

end RuleWatch
