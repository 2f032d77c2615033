/-!
# Double-precision numbers

A number in the binary interchange format of 64 bits, kept as its bit pattern: a sign, eleven bits
of exponent and fifty-two bits of fraction. All arithmetic here is exact arithmetic on naturals
followed by one rounding to the nearest double, ties to the even one.
-/

namespace RuleWatch

/-- A double, by its bit pattern. -/
structure Double where
  bits : UInt64
  deriving DecidableEq, Repr, Inhabited

namespace Double

/-- The eleven bits of the exponent. -/
def exponentField (d : Double) : Nat :=
  d.bits.toNat / Nat.pow 2 52 % Nat.pow 2 11

/-- The fifty-two bits of the fraction. -/
def fractionField (d : Double) : Nat :=
  d.bits.toNat % Nat.pow 2 52

/-- The sign bit is set. -/
def isNegative (d : Double) : Bool :=
  Nat.pow 2 63 ≤ d.bits.toNat

/-- Not a number. -/
def isNaN (d : Double) : Bool :=
  d.exponentField == 2047 && d.fractionField != 0

/-- One of the two infinities. -/
def isInfinite (d : Double) : Bool :=
  d.exponentField == 2047 && d.fractionField == 0

/-- Neither infinite nor not a number. -/
def isFinite (d : Double) : Bool :=
  d.exponentField != 2047

/-- One of the two zeros. -/
def isZero (d : Double) : Bool :=
  d.bits.toNat % Nat.pow 2 63 == 0

/-- The pattern with the given sign and magnitude bits. -/
def ofMagnitude (negative : Bool) (magnitude : Nat) : Double :=
  ⟨UInt64.ofNat (if negative then Nat.pow 2 63 + magnitude else magnitude)⟩

def zero : Double := ofMagnitude false 0

def infinity (negative : Bool) : Double := ofMagnitude negative (2047 * Nat.pow 2 52)

def nan : Double := ofMagnitude false (2047 * Nat.pow 2 52 + Nat.pow 2 51)

/-- The greatest finite double. -/
def greatest : Double := ofMagnitude false (2047 * Nat.pow 2 52 - 1)

/-- The number with the other sign. -/
def neg (d : Double) : Double :=
  ofMagnitude (!d.isNegative) (d.bits.toNat % Nat.pow 2 63)

/-- A finite double without its sign is `significand * 2 ^ exponent`. -/
def significand (d : Double) : Nat :=
  if d.exponentField = 0 then d.fractionField else d.fractionField + Nat.pow 2 52

/-- The power of two that goes with the significand. -/
def exponent (d : Double) : Int :=
  if d.exponentField = 0 then -1074 else d.exponentField - 1075

/-- The quotient rounded to the nearest natural, a tie to the even one. -/
def roundQuotient (num den : Nat) : Nat :=
  let q := num / den
  let r := num % den
  if den < 2 * r || (den == 2 * r && q % 2 == 1) then q + 1 else q

/-- `num / den` divided by `2 ^ e`, as a fraction. -/
def scaled (num den : Nat) (e : Int) : Nat × Nat :=
  if 0 ≤ e then (num, den * Nat.pow 2 e.toNat) else (num * Nat.pow 2 (-e).toNat, den)

/-- The exponent at which the quotient has fifty-three bits, or the least one if it is smaller. -/
def unitExponent (num den : Nat) : Int :=
  let e : Int := num.log2 - den.log2 - 53
  let (n, d) := scaled num den e
  max (if Nat.pow 2 53 ≤ n / d then e + 1 else e) (-1074)

/-- The double nearest to `num / den`, a tie to the one with even significand. -/
def ofRatio (negative : Bool) (num den : Nat) : Double :=
  if num = 0 || den = 0 then ofMagnitude negative 0
  else
    let e := unitExponent num den
    let (n, d) := scaled num den e
    let magnitude := (e + 1074).toNat * Nat.pow 2 52 + roundQuotient n d
    if 2047 * Nat.pow 2 52 ≤ magnitude then infinity negative else ofMagnitude negative magnitude

/-- The double nearest to an integer. -/
def ofInt (n : Int) : Double :=
  ofRatio (n < 0) n.natAbs 1

/-- The product of the magnitudes of two finite doubles, rounded. -/
def mulMagnitude (a b : Double) : Double :=
  let (n, d) := scaled (a.significand * b.significand) 1 (-(a.exponent + b.exponent))
  ofRatio false n d

/-- The quotient of the magnitudes of two finite doubles, the second not zero, rounded. -/
def divMagnitude (a b : Double) : Double :=
  let (n, d) := scaled a.significand b.significand (b.exponent - a.exponent)
  ofRatio false n d

/-- The number is at most zero; nothing is said of what is no number. -/
def isNonPositive (d : Double) : Bool :=
  !d.isNaN && (d.isNegative || d.isZero)

theorem isFinite_eq (d : Double) : d.isFinite = (!d.isNaN && !d.isInfinite) := by
  unfold isFinite isNaN isInfinite
  cases h : d.exponentField == 2047 <;> cases h' : d.fractionField == 0 <;> simp [bne, h, h']

end Double

end RuleWatch
