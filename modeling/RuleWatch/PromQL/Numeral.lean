import RuleWatch.Double.Decimal
import RuleWatch.Interval
import RuleWatch.Text.Digit

/-!
# Numbers and lengths of time in query expressions

Numbers are decimal, or hexadecimal after `0x`, or octal after a zero; the latter two are integers
of a signed 64-bit word. A length of time is made of groups of digits with a unit, from the longest
unit to the shortest and each at most once; a number of units that does not fit in 32 bits counts as
none, and the whole length must not be zero.
-/

namespace RuleWatch.PromQL

/-- A character that can go on in a name or a number. -/
def isWordChar (c : Char) : Bool :=
  c.isAlphanum || c == '_'

/-- The integer of digits in a base, if it fits in a signed 64-bit word. -/
def integer? (base : Nat) (cs : List Char) : Option Double := do
  let n ← Text.ofDigits? base cs
  if (n : Int) ≤ Text.maxInt64 then return Double.ofInt n else none

/-- The value of a numeral. A numeral that begins with a zero is octal unless something in it is
not. -/
def numeralValue? (cs : List Char) : Option Double :=
  match cs with
  | '0' :: 'x' :: digits | '0' :: 'X' :: digits => integer? 16 digits
  | '0' :: rest =>
    if rest.any fun c ↦ c == '8' || c == '9' || c == '.' then Double.ofText? (String.ofList cs)
    else integer? 8 cs
  | cs => Double.ofText? (String.ofList cs)

/-- Digits and what follows them. -/
def splitDigits (isDigit : Char → Bool) (cs : List Char) : List Char × List Char :=
  (cs.takeWhile isDigit, cs.dropWhile isDigit)

/-- The exponent of a numeral, empty if there is none, and what follows it. -/
def splitExponent (cs : List Char) : List Char × List Char :=
  match cs with
  | e :: s :: rest =>
    if e = 'e' ∨ e = 'E' then
      if s = '+' ∨ s = '-' then
        let (digits, rest) := splitDigits Char.isDigit rest
        (e :: s :: digits, rest)
      else
        let (digits, rest) := splitDigits Char.isDigit (s :: rest)
        (e :: digits, rest)
    else ([], cs)
  | [e] => if e = 'e' ∨ e = 'E' then ([e], []) else ([], cs)
  | [] => ([], [])

/-- The numeral at the front, and what follows it. -/
def splitNumeral (cs : List Char) : List Char × List Char :=
  let (marker, isDigit, cs) : List Char × (Char → Bool) × List Char := match cs with
    | '0' :: 'x' :: rest => (['0', 'x'], fun c ↦ (Text.digitValue? 16 c).isSome, rest)
    | '0' :: 'X' :: rest => (['0', 'X'], fun c ↦ (Text.digitValue? 16 c).isSome, rest)
    | cs => ([], Char.isDigit, cs)
  let (whole, cs) := splitDigits isDigit cs
  let (fraction, cs) := match cs with
    | '.' :: cs => let (digits, cs) := splitDigits isDigit cs; ('.' :: digits, cs)
    | cs => ([], cs)
  let (exponent, cs) := splitExponent cs
  (marker ++ whole ++ fraction ++ exponent, cs)

/-- The greatest number of units that counts. -/
def maxUnits : Nat := 4294967295

/-- The length of the groups of a text, added to a length, when only some units may still come. -/
def addUnits : List Interval.Unit → Nat → List Char → Option Nat
  | _, total, [] => some total
  | [], _, _ :: _ => none
  | unit :: units, total, c :: cs =>
    let (digits, rest) := splitDigits Char.isDigit (c :: cs)
    let (letters, rest) := splitDigits Char.isAlpha rest
    if digits.isEmpty then none
    else if letters = unit.symbol then
      let number := Text.digitsValue digits
      let number := if maxUnits < number then 0 else number
      addUnits units (total + number * unit.length) rest
    else addUnits units total (c :: cs)

/-- A length of time that is not zero. -/
def isDuration (cs : List Char) : Bool :=
  match addUnits Interval.units 0 cs with
  | some total => total != 0
  | none => false

end RuleWatch.PromQL
