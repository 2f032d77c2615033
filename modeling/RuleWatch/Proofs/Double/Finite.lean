import Mathlib.Tactic.Ring
import RuleWatch.Double.Decimal

/-!
# Doubles that are finite

A quotient of naturals that is no greater than the greatest finite double is rounded to a finite
one (`isFinite_ofRatio`). So integers of 64 bits are, and so is what is left of a finite double when
it is divided by a power of ten (`isFinite_divMagnitude`).
-/

namespace RuleWatch.Double

/-- The greatest significand. -/
def maxSignificand : Nat := 2 ^ 53 - 1

theorem maxSignificand_lt : maxSignificand < 2 ^ 53 := by
  unfold maxSignificand
  omega

/-- The greatest exponent of a finite double. -/
@[irreducible] def maxExponent : Nat := 971

/-- The greatest finite double. -/
@[irreducible] def maxFinite : Nat := maxSignificand * 2 ^ maxExponent

variable {num den : Nat}

/-! ## Bits -/

theorem toNat_bits_ofMagnitude {m : Nat} (negative : Bool) (h : m < 2 ^ 63) :
    (ofMagnitude negative m).bits.toNat = if negative then 2 ^ 63 + m else m := by
  change (UInt64.ofNat (if negative then 2 ^ 63 + m else m)).toNat = _
  rw [UInt64.toNat_ofNat', Nat.mod_eq_of_lt]
  split <;> omega

theorem exponentField_ofMagnitude {m : Nat} (negative : Bool) (h : m < 2 ^ 63) :
    (ofMagnitude negative m).exponentField = m / 2 ^ 52 := by
  change (ofMagnitude negative m).bits.toNat / 2 ^ 52 % 2 ^ 11 = _
  rw [toNat_bits_ofMagnitude negative h]
  split <;> omega

theorem isFinite_ofMagnitude {m : Nat} (negative : Bool) (h : m < 2047 * 2 ^ 52) :
    (ofMagnitude negative m).isFinite := by
  rw [isFinite, exponentField_ofMagnitude negative (by omega), bne_iff_ne]
  omega

theorem mod_bits_ofMagnitude {m : Nat} (negative : Bool) (h : m < 2 ^ 63) :
    (ofMagnitude negative m).bits.toNat % 2 ^ 63 = m := by
  rw [toNat_bits_ofMagnitude negative h]
  split <;> omega

theorem isZero_ofMagnitude {m : Nat} (negative : Bool) (h : m < 2 ^ 63) :
    (ofMagnitude negative m).isZero = (m == 0) := by
  change ((ofMagnitude negative m).bits.toNat % 2 ^ 63 == 0) = _
  rw [mod_bits_ofMagnitude negative h]

theorem isNegative_ofMagnitude {m : Nat} (negative : Bool) (h : m < 2 ^ 63) :
    (ofMagnitude negative m).isNegative = negative := by
  change decide (2 ^ 63 ≤ (ofMagnitude negative m).bits.toNat) = _
  rw [toNat_bits_ofMagnitude negative h]
  cases negative with
  | false => exact decide_eq_false (Nat.not_le.mpr h)
  | true => exact decide_eq_true (Nat.le_add_right ..)

theorem neg_ofMagnitude {m : Nat} (negative : Bool) (h : m < 2 ^ 63) :
    (ofMagnitude negative m).neg = ofMagnitude (!negative) m := by
  rw [neg, isNegative_ofMagnitude negative h]
  exact congrArg _ (mod_bits_ofMagnitude negative h)

theorem isFinite_zero : zero.isFinite := by
  decide

/-- The bits of a finite double without its sign. -/
theorem toNat_bits_mod_lt {d : Double} (h : d.isFinite) :
    d.bits.toNat % 2 ^ 63 < 2047 * 2 ^ 52 := by
  rw [isFinite, bne_iff_ne] at h
  change d.bits.toNat / 2 ^ 52 % 2 ^ 11 ≠ 2047 at h
  omega

theorem isFinite_neg {d : Double} (h : d.isFinite) : d.neg.isFinite :=
  isFinite_ofMagnitude _ (toNat_bits_mod_lt h)

theorem significand_le (d : Double) : d.significand ≤ maxSignificand := by
  have hfraction : d.fractionField < 2 ^ 52 := Nat.mod_lt _ (by decide)
  unfold significand maxSignificand
  split
  · omega
  · change d.fractionField + 2 ^ 52 ≤ _
    omega

theorem exponent_le {d : Double} (h : d.isFinite) : d.exponent ≤ maxExponent := by
  have hfield : d.exponentField < 2 ^ 11 := Nat.mod_lt _ (by decide)
  rw [isFinite, bne_iff_ne] at h
  unfold exponent maxExponent
  split <;> omega

/-! ## Quotients -/

theorem scaled_eq (num den : Nat) (e : Int) :
    scaled num den e = (num * 2 ^ (-e).toNat, den * 2 ^ e.toNat) := by
  unfold scaled
  split
  · have hnone : (-e).toNat = 0 := by omega
    simp [hnone]
  · have hnone : e.toNat = 0 := by omega
    simp [hnone]

/-- A quotient below a natural is rounded to no more than it. -/
theorem roundQuotient_le {q : Nat} (h : num < q * den) : roundQuotient num den ≤ q := by
  have hlt : num / den < q := Nat.div_lt_of_lt_mul (Nat.mul_comm q den ▸ h)
  unfold roundQuotient
  dsimp only
  split <;> omega

/-- A quotient that is no greater than a natural is rounded to no more than it. -/
theorem roundQuotient_le_of_le {q : Nat} (hden : den ≠ 0) (h : num ≤ q * den) :
    roundQuotient num den ≤ q := by
  rcases Nat.lt_or_eq_of_le h with hlt | rfl
  · exact roundQuotient_le hlt
  · have hdiv : q * den / den = q := Nat.mul_div_cancel q (Nat.pos_of_ne_zero hden)
    have hmod : q * den % den = 0 := Nat.mul_mod_left q den
    simp [roundQuotient, hdiv, hmod, hden]

/-! ## The exponent of the unit -/

/-- A quotient that is scaled down further stays below a bound. -/
theorem scaled_lt_of_le {e e' : Int} {bound : Nat} (hle : e ≤ e')
    (h : num * 2 ^ (-e).toNat < bound * (den * 2 ^ e.toNat)) :
    num * 2 ^ (-e').toNat < bound * (den * 2 ^ e'.toNat) :=
  calc num * 2 ^ (-e').toNat
      ≤ num * 2 ^ (-e).toNat := Nat.mul_le_mul_left _ (Nat.pow_le_pow_right (by decide) (by omega))
    _ < bound * (den * 2 ^ e.toNat) := h
    _ ≤ bound * (den * 2 ^ e'.toNat) :=
      Nat.mul_le_mul_left _ (Nat.mul_le_mul_left _ (Nat.pow_le_pow_right (by decide) (by omega)))

/-- The exponent of the unit is the difference of the logarithms, or one more if the quotient has a
bit too many there, but not below the least exponent. -/
theorem unitExponent_eq (num den : Nat) :
    ∃ e : Int, e = num.log2 - den.log2 - 53 ∧
      (2 ^ 53 * (den * 2 ^ e.toNat) ≤ num * 2 ^ (-e).toNat ∧
          unitExponent num den = max (e + 1) (-1074) ∨
        (den ≠ 0 → num * 2 ^ (-e).toNat < 2 ^ 53 * (den * 2 ^ e.toNat)) ∧
          unitExponent num den = max e (-1074)) := by
  refine ⟨_, rfl, ?_⟩
  unfold unitExponent
  simp only [scaled_eq, Nat.pow_eq]
  generalize (num.log2 - den.log2 - 53 : Int) = e
  split
  next h => exact .inl ⟨(Nat.mul_le_mul_right _ h).trans (Nat.div_mul_le_self ..), rfl⟩
  next h =>
    refine .inr ⟨fun hden ↦ ?_, rfl⟩
    have hpos : 0 < den * 2 ^ e.toNat := Nat.mul_pos (Nat.pos_of_ne_zero hden) (Nat.two_pow_pos _)
    exact (Nat.div_lt_iff_lt_mul hpos).mp (Nat.lt_of_not_le h)

/-- Scaled by the exponent of the unit, a quotient has no more than fifty-three bits. -/
theorem scaled_unitExponent_lt (num : Nat) (hden : den ≠ 0) :
    num * 2 ^ (-unitExponent num den).toNat <
      2 ^ 53 * (den * 2 ^ (unitExponent num den).toNat) := by
  obtain ⟨e, he, ⟨-, heq⟩ | ⟨hlt, heq⟩⟩ := unitExponent_eq num den
  · rw [heq]
    refine scaled_lt_of_le (le_max_left (e + 1) (-1074)) ?_
    have hexp : num.log2 + 1 + (-(e + 1)).toNat = 53 + (den.log2 + (e + 1).toNat) := by omega
    calc num * 2 ^ (-(e + 1)).toNat
        < 2 ^ (num.log2 + 1) * 2 ^ (-(e + 1)).toNat :=
          Nat.mul_lt_mul_of_pos_right Nat.lt_log2_self (Nat.two_pow_pos _)
      _ = 2 ^ 53 * (2 ^ den.log2 * 2 ^ (e + 1).toNat) := by
          rw [← Nat.pow_add, hexp, Nat.pow_add, Nat.pow_add]
      _ ≤ 2 ^ 53 * (den * 2 ^ (e + 1).toNat) :=
          Nat.mul_le_mul_left _ (Nat.mul_le_mul_right _ (Nat.log2_self_le hden))
  · rw [heq]
    exact scaled_lt_of_le (le_max_left e (-1074)) (hlt hden)

/-- It has all of them, unless the exponent is the least one. -/
theorem le_scaled_unitExponent (den : Nat) (hnum : num ≠ 0) (h : -1074 < unitExponent num den) :
    2 ^ 52 * (den * 2 ^ (unitExponent num den).toNat) ≤
      num * 2 ^ (-unitExponent num den).toNat := by
  obtain ⟨e, he, ⟨hle, heq⟩ | ⟨-, heq⟩⟩ := unitExponent_eq num den
  · have hunit : unitExponent num den = e + 1 := by omega
    rw [hunit]
    rcases Int.lt_or_le e 0 with hneg | hpos
    · have hup : (-e).toNat = (-(e + 1)).toNat + 1 := by omega
      have hnone : e.toNat = 0 ∧ (e + 1).toNat = 0 := by omega
      rw [hup, hnone.1, pow_succ 2 (-(e + 1)).toNat, ← Nat.mul_assoc num] at hle
      rw [hnone.2]
      omega
    · have hup : (e + 1).toNat = e.toNat + 1 := by omega
      have hnone : (-e).toNat = 0 ∧ (-(e + 1)).toNat = 0 := by omega
      rw [hnone.1] at hle
      rw [hup, hnone.2]
      have hregroup : 2 ^ 53 * (den * 2 ^ e.toNat) = 2 ^ 52 * (den * 2 ^ (e.toNat + 1)) := by ring
      exact hregroup ▸ hle
  · have hunit : unitExponent num den = e := by omega
    have hexp : num.log2 + (-e).toNat = 52 + (den.log2 + 1 + e.toNat) := by omega
    rw [hunit]
    calc 2 ^ 52 * (den * 2 ^ e.toNat)
        ≤ 2 ^ 52 * (2 ^ (den.log2 + 1) * 2 ^ e.toNat) :=
          Nat.mul_le_mul_left _ (Nat.mul_le_mul_right _ (Nat.le_of_lt Nat.lt_log2_self))
      _ = 2 ^ num.log2 * 2 ^ (-e).toNat := by
          rw [← Nat.pow_add, ← Nat.pow_add, ← Nat.pow_add, hexp]
      _ ≤ num * 2 ^ (-e).toNat := Nat.mul_le_mul_right _ (Nat.log2_self_le hnum)

/-- The exponent of the unit is no greater than that of a bound with all its bits. -/
theorem unitExponent_le {k : Nat} (hnum : num ≠ 0) (hden : den ≠ 0)
    (h : num ≤ den * (maxSignificand * 2 ^ k)) : unitExponent num den ≤ k := by
  by_contra hgreat
  have hle := le_scaled_unitExponent den hnum (by omega)
  have hnone : (-unitExponent num den).toNat = 0 := by omega
  rw [hnone, Nat.pow_zero, Nat.mul_one] at hle
  generalize unitExponent num den = e at hle hgreat
  have hbound : den * 2 ^ (52 + e.toNat) < den * 2 ^ (53 + k) := by
    calc den * 2 ^ (52 + e.toNat)
        = 2 ^ 52 * (den * 2 ^ e.toNat) := by ring
      _ ≤ den * (maxSignificand * 2 ^ k) := hle.trans h
      _ < den * 2 ^ (53 + k) := by
        rw [Nat.pow_add]
        exact Nat.mul_lt_mul_of_pos_left
          (Nat.mul_lt_mul_of_pos_right maxSignificand_lt (Nat.two_pow_pos k))
          (Nat.pos_of_ne_zero hden)
  have hexp := (Nat.pow_lt_pow_iff_right (by decide)).mp (Nat.lt_of_mul_lt_mul_left hbound)
  omega

/-- So its place among the exponents and its rounded significand are those of a finite double. -/
theorem magnitude_lt {k : Nat} (hk : k ≤ maxExponent) (hnum : num ≠ 0) (hden : den ≠ 0)
    (h : num ≤ den * (maxSignificand * 2 ^ k)) :
    (unitExponent num den + 1074).toNat * 2 ^ 52 +
      roundQuotient (num * 2 ^ (-unitExponent num den).toNat)
        (den * 2 ^ (unitExponent num den).toNat) < 2047 * 2 ^ 52 := by
  have hle := unitExponent_le hnum hden h
  have hlt := scaled_unitExponent_lt num hden
  generalize unitExponent num den = e at hle hlt
  unfold maxExponent at hk
  rcases Int.lt_or_eq_of_le hle with hless | rfl
  · have hround := roundQuotient_le hlt
    omega
  · have hround : roundQuotient (num * 2 ^ (-(k : Int)).toNat) (den * 2 ^ (k : Int).toNat) ≤
        maxSignificand := by
      have hnone : (-(k : Int)).toNat = 0 := by omega
      rw [hnone, Nat.pow_zero, Nat.mul_one, Int.toNat_natCast]
      rw [Nat.mul_left_comm] at h
      exact roundQuotient_le_of_le (Nat.mul_ne_zero hden (Nat.two_pow_pos k).ne') h
    have hbits := maxSignificand_lt
    omega

/-- A quotient that is no greater than the greatest finite double is rounded to a finite one. -/
theorem isFinite_ofRatio (negative : Bool) (h : num ≤ den * maxFinite) :
    (ofRatio negative num den).isFinite := by
  unfold ofRatio
  split
  next => exact isFinite_ofMagnitude negative (by decide)
  next hzero =>
    obtain ⟨hnum, hden⟩ : num ≠ 0 ∧ den ≠ 0 := by simpa using hzero
    rw [maxFinite] at h
    have hmagnitude := magnitude_lt (Nat.le_refl maxExponent) hnum hden h
    simp only [scaled_eq, Nat.pow_eq]
    rw [if_neg (Nat.not_le.mpr hmagnitude)]
    exact isFinite_ofMagnitude negative hmagnitude

/-! ## Integers, products and quotients of doubles -/

/-- Integers that are not too great are rounded to finite doubles. -/
theorem isFinite_ofInt {n : Int} (h : n.natAbs ≤ 2 ^ 64) : (ofInt n).isFinite := by
  refine isFinite_ofRatio _ ?_
  have hmax : 2 ^ 64 ≤ maxFinite := by decide +kernel
  omega

/-- The number is at least one. -/
def IsAtLeastOne (d : Double) : Prop :=
  2 ^ (-d.exponent).toNat ≤ d.significand

instance (d : Double) : Decidable d.IsAtLeastOne :=
  inferInstanceAs (Decidable (_ ≤ _))

/-- A finite double divided by one that is at least one stays finite. -/
theorem isFinite_divMagnitude {a b : Double} (ha : a.isFinite) (hb : b.IsAtLeastOne) :
    (a.divMagnitude b).isFinite := by
  unfold divMagnitude
  rw [scaled_eq]
  refine isFinite_ofRatio false ?_
  have hsignificand := a.significand_le
  have hexponent := exponent_le ha
  unfold IsAtLeastOne at hb
  generalize a.exponent = x, b.exponent = y at hexponent hb ⊢
  have hpower : 2 ^ (x - y).toNat ≤ b.significand * 2 ^ (y - x).toNat * 2 ^ maxExponent := by
    calc 2 ^ (x - y).toNat
        ≤ 2 ^ ((-y).toNat + maxExponent) := Nat.pow_le_pow_right (by decide) (by omega)
      _ = 2 ^ (-y).toNat * 2 ^ maxExponent := Nat.pow_add ..
      _ ≤ b.significand * 2 ^ (y - x).toNat * 2 ^ maxExponent :=
        Nat.mul_le_mul_right _ (hb.trans (Nat.le_mul_of_pos_right _ (Nat.two_pow_pos _)))
  calc a.significand * 2 ^ (-(y - x)).toNat
      ≤ maxSignificand * (b.significand * 2 ^ (y - x).toNat * 2 ^ maxExponent) := by
        rw [Int.neg_sub]
        exact Nat.mul_le_mul hsignificand hpower
    _ = b.significand * 2 ^ (y - x).toNat * maxFinite := by
        rw [maxFinite, Nat.mul_left_comm]

/-- Powers of ten are at least one, also those that are out of range. -/
theorem isAtLeastOne_ofDecimal (n : Nat) : (ofDecimal false 1 n).IsAtLeastOne := by
  have hsmall : ∀ n : Nat, n ≤ 320 → (ofDecimal false 1 n).IsAtLeastOne := by decide +kernel
  rcases Nat.lt_or_ge 320 n with hgreat | hle
  · have hinfinite : ofDecimal false 1 n = infinity false := by
      have hlog : (320 : Int) < lowLog10 1 + n := by
        change (320 : Int) < 0 + n
        omega
      rw [ofDecimal, if_neg (by decide), if_pos hlog]
    rw [hinfinite]
    decide +kernel
  · exact hsmall n hle

end RuleWatch.Double
