import RuleWatch.Double.Decimal
import RuleWatch.Json.Basic

/-!
# Numerals

A number as it is written in a JSON text, and its value. A numeral without point and exponent that
fits in 64 bits is that integer; every other one is a double, found from the leading digits that
fit in 64 bits and a power of ten. A numeral above the doubles has no value.
-/

namespace RuleWatch.Json

/-- The parts of a numeral, as texts of digits. No fraction or exponent is an absent one. -/
structure Numeral where
  negative : Bool
  whole : List Char
  fraction : Option (List Char)
  /-- The sign, negative if true, and the digits. -/
  exp : Option (Bool × List Char)

namespace Numeral

/-- The digits read so far as a natural of 64 bits, and the power of ten that goes with it. -/
structure Head where
  digits : Nat
  exp : Int

/-- The natural with one more digit. -/
def append (n : Nat) (c : Char) : Nat :=
  n * 10 + (c.toNat - '0'.toNat)

/-- Digits before the point: once one does not fit, it and those after it only count as powers of
ten. -/
def readWhole (full : Bool) (head : Head) : List Char → Head
  | [] => head
  | c :: cs =>
    if full || Text.maxUInt64 < append head.digits c then
      readWhole true { head with exp := head.exp + 1 } cs
    else readWhole false { head with digits := append head.digits c } cs

/-- Digits after the point: once one does not fit, it and those after it are dropped. -/
def readFraction (head : Head) : List Char → Head
  | [] => head
  | c :: cs =>
    if Text.maxUInt64 < append head.digits c then head
    else readFraction ⟨append head.digits c, head.exp - 1⟩ cs

/-- The greatest exponent that is read as a number. -/
def maxExponent : Nat := 2147483647

/-- The greatest power of ten that a double is multiplied with or divided by. -/
def maxPower : Nat := 308

/-- The double `10 ^ n`. -/
def power (n : Nat) : Double :=
  Double.ofDecimal false 1 n

/-- A finite double that is no overflow. -/
def finite? (d : Double) : Option Double :=
  if d.isFinite then some d else none

/-- The magnitude of `d / 10 ^ n`, divided in steps of the greatest power. -/
def divide : Nat → Double → Nat → Double
  | 0, d, n => d.divMagnitude (power n)
  | steps + 1, d, n =>
    if n ≤ maxPower then d.divMagnitude (power n)
    else if d.isZero then d
    else divide steps (d.divMagnitude (power maxPower)) (n - maxPower)

/-- The magnitude of the head. A zero has no power of ten that is out of range, and no nonzero head
outlasts four divisions by the greatest power. -/
def Head.magnitude? (head : Head) : Option Double :=
  let d := Double.ofInt head.digits
  if head.exp < 0 then some (divide 4 d head.exp.natAbs)
  else if head.exp ≤ maxPower then finite? (d.mulMagnitude (power head.exp.toNat))
  else if d.isZero then some d else none

/-- The leading digits with their power of ten, the exponent left out. -/
def head (numeral : Numeral) : Head :=
  readFraction (readWhole false ⟨0, 0⟩ numeral.whole) (numeral.fraction.getD [])

/-- The magnitude of a numeral that is no integer of 64 bits. -/
def magnitude? (numeral : Numeral) : Option Double :=
  let head := numeral.head
  match numeral.exp with
  | none => head.magnitude?
  | some (negative, digits) =>
    let n := Text.digitsValue digits
    if maxExponent < n then
      if head.digits ≠ 0 && !negative then none else some Double.zero
    else Head.magnitude? ⟨head.digits, if negative then head.exp - n else head.exp + n⟩

/-- The value as an integer: only of a numeral without point and exponent, and never of a negative
zero. -/
def int? (numeral : Numeral) : Option Int :=
  if numeral.fraction.isSome || numeral.exp.isSome then none
  else
    let n := Text.digitsValue numeral.whole
    if numeral.negative then
      if n = 0 ∨ -(n : Int) < Text.minInt64 then none else some (-n)
    else if Text.maxUInt64 < n then none else some n

/-- The value, unless it is out of range. -/
def value? (numeral : Numeral) : Option Number :=
  match numeral.int? with
  | some n => some (.int n)
  | none => numeral.magnitude?.map fun d ↦ .double (if numeral.negative then d.neg else d)

end Numeral

end RuleWatch.Json
