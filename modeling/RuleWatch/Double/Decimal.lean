import RuleWatch.Double.Basic
import RuleWatch.Text.Integer

/-!
# Decimals

The double nearest to a decimal, and the texts that are read as doubles: an optional sign, then
the word for infinity or for what is no number in any case, or digits with an optional point and
an optional exponent.
-/

namespace RuleWatch.Double

/-- A bound on the decimal logarithm from below. -/
def lowLog10 (n : Nat) : Int := n.log2 * 3 / 10

/-- A bound on the decimal logarithm from above. -/
def highLog10 (n : Nat) : Int := (n.log2 + 1) * 302 / 1000 + 1

/-- The double nearest to `digits * 10 ^ exp`. Exponents far out of range are settled at once. -/
def ofDecimal (negative : Bool) (digits : Nat) (exp : Int) : Double :=
  if digits = 0 then ofMagnitude negative 0
  else if 320 < lowLog10 digits + exp then infinity negative
  else if highLog10 digits + exp < -340 then ofMagnitude negative 0
  else if 0 ≤ exp then ofRatio negative (digits * Nat.pow 10 exp.toNat) 1
  else ofRatio negative digits (Nat.pow 10 (-exp).toNat)

/-- A decimal as it is written: the digits before and after the point, and the exponent. -/
structure Decimal where
  whole : List Char
  fraction : List Char
  exp : Int

namespace Decimal

/-- The double nearest to the decimal. -/
def value (d : Decimal) (negative : Bool) : Double :=
  ofDecimal negative (Text.digitsValue (d.whole ++ d.fraction)) (d.exp - d.fraction.length)

/-- The exponent after its letter: an optional sign and at least one digit, to the end. -/
def exponent? : List Char → Option Int
  | '+' :: cs => (Text.nat? cs).map Int.ofNat
  | '-' :: cs => (Text.nat? cs).map fun n ↦ -Int.ofNat n
  | cs => (Text.nat? cs).map Int.ofNat

/-- Digits with an optional point, at least one digit in all, and an optional exponent. -/
def ofList? (cs : List Char) : Option Decimal :=
  let whole := cs.takeWhile Char.isDigit
  let rest := cs.dropWhile Char.isDigit
  let (fraction, rest) := match rest with
    | '.' :: rest => (rest.takeWhile Char.isDigit, rest.dropWhile Char.isDigit)
    | rest => ([], rest)
  if whole.isEmpty && fraction.isEmpty then none
  else match rest with
    | [] => some ⟨whole, fraction, 0⟩
    | c :: rest =>
      if c = 'e' ∨ c = 'E' then (exponent? rest).map fun exp ↦ ⟨whole, fraction, exp⟩ else none

end Decimal

/-- A magnitude in text. -/
def magnitude? (negative : Bool) (cs : List Char) : Option Double :=
  let word := String.ofList (cs.map Char.toLower)
  if word = "inf" ∨ word = "infinity" then some (infinity negative)
  else if word = "nan" then some nan
  else (Decimal.ofList? cs).map (·.value negative)

/-- The double that a text is read as. -/
def ofText? (s : String) : Option Double :=
  match s.toList with
  | '+' :: cs => magnitude? false cs
  | '-' :: cs => magnitude? true cs
  | cs => magnitude? false cs

end RuleWatch.Double
