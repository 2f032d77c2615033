import RuleWatch.Double.Decimal

/-!
# The shortest decimal of a double

The fewest digits that read back as a double, and of those the ones nearest to it.
-/

namespace RuleWatch.Double

/-- A decimal `digits * 10 ^ exp`. -/
structure Shortest where
  digits : Nat
  exp : Int
  deriving DecidableEq, Repr

/-- The quotient and the remainder of `num / den` by a power of ten, with the denominator that goes
with the remainder. -/
def divPower (num den : Nat) (e : Int) : Nat × Nat × Nat :=
  let (n, d) :=
    if 0 ≤ e then (num, den * Nat.pow 10 e.toNat) else (num * Nat.pow 10 (-e).toNat, den)
  (n / d, n % d, d)

/-- The least power of ten above `num / den`, found upward from a power below it. -/
def powerAbove (num den : Nat) : Nat → Int → Int
  | 0, e => e
  | fuel + 1, e => if (divPower num den e).1 = 0 then e else powerAbove num den fuel (e + 1)

/-- The decimals on the grid of a power of ten right below and right above `num / den`, the nearer
one first. -/
def neighbours (num den : Nat) (e : Int) : List Shortest :=
  let (q, r, d) := divPower num den e
  if 2 * r ≤ d then [⟨q, e⟩, ⟨q + 1, e⟩] else [⟨q + 1, e⟩, ⟨q, e⟩]

/-- The first grid, from the coarse to the fine, on which a neighbour reads back. -/
def searchShortest (d : Double) (num den : Nat) : Nat → Int → Shortest
  | 0, e => ⟨(divPower num den e).1, e⟩
  | fuel + 1, e =>
    match (neighbours num den e).find? fun s ↦ ofDecimal false s.digits s.exp == d with
    | some s => s
    | none => searchShortest d num den fuel (e - 1)

/-- A finite double without its sign as a fraction. -/
def ratio (d : Double) : Nat × Nat :=
  if 0 ≤ d.exponent then (d.significand * Nat.pow 2 d.exponent.toNat, 1)
  else (d.significand, Nat.pow 2 (-d.exponent).toNat)

/-- The shortest decimal of a positive finite double. The search begins on the grid of the power of
ten above the double, which is itself the shortest decimal of some. -/
def shortest (d : Double) : Shortest :=
  let (num, den) := d.ratio
  searchShortest d num den 18 (powerAbove num den 4 (lowLog10 num - highLog10 den))

end RuleWatch.Double
