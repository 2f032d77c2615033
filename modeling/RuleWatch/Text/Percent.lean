import RuleWatch.Text.Digit
import RuleWatch.Text.Utf8

/-!
# Bytes given by number

A percent sign and two digits in base sixteen stand for one byte. A percent sign without them
stands for itself.
-/

namespace RuleWatch.Text.Percent

/-- The value of a byte that is a digit in base sixteen. -/
def hexValue? (b : UInt8) : Option Nat :=
  digitValue? 16 (Char.ofNat b.toNat)

/-- The bytes that the bytes stand for. -/
def decode : Bytes → Bytes
  | [] => []
  | b :: bs =>
    if b = 0x25 then
      match bs with
      | x :: y :: rest =>
        match hexValue? x, hexValue? y with
        | some high, some low => UInt8.ofNat (high * 16 + low) :: decode rest
        | _, _ => b :: decode (x :: y :: rest)
      | bs => b :: decode bs
    else b :: decode bs

theorem decode_cons_of_ne {b : UInt8} (h : b ≠ 0x25) (bs : Bytes) :
    decode (b :: bs) = b :: decode bs := by
  rcases bs with _ | ⟨x, _ | ⟨y, rest⟩⟩ <;> simp [decode, h]

end RuleWatch.Text.Percent
