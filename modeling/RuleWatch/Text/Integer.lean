/-!
# Integers in text

Decimal integers with an optional sign, read within the bounds of a 64-bit word: a sign alone, an
empty text, a blank or a separator is no integer, and neither is a value out of bounds.
-/

namespace RuleWatch.Text

/-- The least signed 64-bit integer. -/
def minInt64 : Int := -9223372036854775808

/-- The greatest signed 64-bit integer. -/
def maxInt64 : Int := 9223372036854775807

/-- The greatest unsigned 64-bit integer. -/
def maxUInt64 : Nat := 18446744073709551615

/-- The value of decimal digits, most significant first. -/
def digitsValue (cs : List Char) : Nat :=
  cs.foldl (fun n c ↦ n * 10 + (c.toNat - '0'.toNat)) 0

/-- The value of a text that is ASCII digits and nothing else, at least one of them. -/
def nat? (cs : List Char) : Option Nat :=
  if !cs.isEmpty && cs.all Char.isDigit then some (digitsValue cs) else none

/-- An optional plus sign, then digits; up to the greatest unsigned 64-bit integer. -/
def uint64? (s : String) : Option Nat :=
  let digits := match s.toList with
    | '+' :: cs => cs
    | cs => cs
  (nat? digits).filter (· ≤ maxUInt64)

/-- An optional sign, then digits; within the signed 64-bit integers. -/
def int64? (s : String) : Option Int :=
  let value := match s.toList with
    | '+' :: cs => (nat? cs).map Int.ofNat
    | '-' :: cs => (nat? cs).map fun n ↦ -Int.ofNat n
    | cs => (nat? cs).map Int.ofNat
  value.filter fun n ↦ minInt64 ≤ n && n ≤ maxInt64

end RuleWatch.Text
