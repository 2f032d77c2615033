/-!
# Digits

Digits in bases up to sixteen, with letters in either case for those above nine, and the characters
that are given by number.
-/

namespace RuleWatch.Text

/-- The value of a digit in a base up to sixteen. -/
def digitValue? (base : Nat) (c : Char) : Option Nat :=
  let value :=
    if c.isDigit then c.toNat - '0'.toNat
    else if 'a' ≤ c ∧ c ≤ 'f' then c.toNat - 'a'.toNat + 10
    else if 'A' ≤ c ∧ c ≤ 'F' then c.toNat - 'A'.toNat + 10
    else base
  if value < base then some value else none

/-- The value of digits in a base, most significant first, at least one of them. -/
def ofDigits? (base : Nat) : List Char → Option Nat
  | [] => none
  | cs => cs.foldlM (fun n c ↦ (digitValue? base c).map (n * base + ·)) 0

/-- The digits of a number in base sixteen, without leading zeros. -/
def hexDigits (n : Nat) : List Char :=
  Nat.toDigits 16 n

/-- The character of a number, unless there is none. -/
def charOfNumber? (n : Nat) : Option Char :=
  if n.isValidChar then some (Char.ofNat n) else none

end RuleWatch.Text
