import Mathlib.Tactic.NormNum
import RuleWatch.Double.Shortest

/-!
# The shortest decimal has digits

The search for the shortest decimal of a double begins near the double and ends far below it. So
whether it finds a decimal that reads back or gives up, the decimal is not zero
(`digits_shortest_ne_zero`).
-/

namespace RuleWatch.Double

variable {d : Double} {num den : Nat}

/-! ## Logarithms -/

theorem pow_log2_le {n : Nat} (h : n ≠ 0) : 10 ^ (n.log2 * 3 / 10) ≤ n := by
  refine le_trans ?_ (Nat.log2_self_le h)
  refine (Nat.pow_le_pow_iff_left (n := 10) (by decide)).mp ?_
  calc (10 ^ (n.log2 * 3 / 10)) ^ 10
      = 10 ^ (n.log2 * 3 / 10 * 10) := (Nat.pow_mul ..).symm
    _ ≤ 10 ^ (3 * n.log2) := Nat.pow_le_pow_right (by decide) (by omega)
    _ = (10 ^ 3) ^ n.log2 := Nat.pow_mul ..
    _ ≤ (2 ^ 10) ^ n.log2 := Nat.pow_le_pow_left (by decide) _
    _ = (2 ^ n.log2) ^ 10 := Nat.pow_right_comm ..

theorem le_pow_log2 (n : Nat) : n ≤ 10 ^ ((n.log2 + 1) * 302 / 1000 + 1) := by
  refine (Nat.le_of_lt Nat.lt_log2_self).trans ?_
  generalize n.log2 + 1 = k
  refine (Nat.pow_le_pow_iff_left (n := 250) (by decide)).mp
    ((Nat.pow_le_pow_iff_left (n := 2) (by decide)).mp ?_)
  have hle : 151 * k ≤ (k * 302 / 1000 + 1) * 250 * 2 := by omega
  calc ((2 ^ k) ^ 250) ^ 2
      = ((2 ^ 250) ^ 2) ^ k := by rw [Nat.pow_right_comm 2 k, Nat.pow_right_comm _ k]
    _ ≤ (10 ^ 151) ^ k := Nat.pow_le_pow_left (by decide +kernel) _
    _ = 10 ^ (151 * k) := (Nat.pow_mul ..).symm
    _ ≤ 10 ^ ((k * 302 / 1000 + 1) * 250 * 2) := Nat.pow_le_pow_right (by decide) hle
    _ = ((10 ^ (k * 302 / 1000 + 1)) ^ 250) ^ 2 := by rw [Nat.pow_mul, Nat.pow_mul]

theorem lowLog10_eq (n : Nat) : lowLog10 n = (n.log2 * 3 / 10 : Nat) := by
  unfold lowLog10
  omega

theorem highLog10_eq (n : Nat) : highLog10 n = ((n.log2 + 1) * 302 / 1000 + 1 : Nat) := by
  unfold highLog10
  omega

/-! ## Grids -/

theorem divPower_fst (num den : Nat) (e : Int) :
    (divPower num den e).1 = num * 10 ^ (-e).toNat / (den * 10 ^ e.toNat) := by
  unfold divPower
  by_cases he : 0 ≤ e
  · have hnone : (-e).toNat = 0 := by omega
    simp [he, hnone]
  · have hnone : e.toNat = 0 := by omega
    simp [he, hnone]

/-- On a grid that is fine enough a quotient has digits. -/
theorem divPower_ne_zero {e : Int} (hnum : num ≠ 0) (hden : den ≠ 0)
    (he : e ≤ lowLog10 num - highLog10 den) : (divPower num den e).1 ≠ 0 := by
  have hexp : (den.log2 + 1) * 302 / 1000 + 1 + e.toNat ≤ num.log2 * 3 / 10 + (-e).toNat := by
    rw [lowLog10_eq, highLog10_eq] at he
    omega
  have hle : den * 10 ^ e.toNat ≤ num * 10 ^ (-e).toNat := by
    calc den * 10 ^ e.toNat
        ≤ 10 ^ ((den.log2 + 1) * 302 / 1000 + 1) * 10 ^ e.toNat :=
          Nat.mul_le_mul_right _ (le_pow_log2 den)
      _ = 10 ^ ((den.log2 + 1) * 302 / 1000 + 1 + e.toNat) := (Nat.pow_add ..).symm
      _ ≤ 10 ^ (num.log2 * 3 / 10 + (-e).toNat) := Nat.pow_le_pow_right (by decide) hexp
      _ = 10 ^ (num.log2 * 3 / 10) * 10 ^ (-e).toNat := Nat.pow_add ..
      _ ≤ num * 10 ^ (-e).toNat := Nat.mul_le_mul_right _ (pow_log2_le hnum)
  have hpos : 0 < den * 10 ^ e.toNat :=
    Nat.mul_pos (Nat.pos_of_ne_zero hden) (Nat.pow_pos (by decide))
  rw [divPower_fst]
  exact (Nat.div_pos hle hpos).ne'

theorem powerAbove_le (num den fuel : Nat) (e : Int) : powerAbove num den fuel e ≤ e + fuel := by
  induction fuel generalizing e with
  | zero => simp [powerAbove]
  | succ fuel ih =>
    unfold powerAbove
    split
    · omega
    · exact (ih (e + 1)).trans (by omega)

/-! ## The search -/

/-- No zero reads back as anything else. -/
theorem digits_ne_zero_of_ofDecimal {s : Shortest} (hd : d.isZero = false)
    (h : ofDecimal false s.digits s.exp = d) : s.digits ≠ 0 := by
  intro hzero
  rw [hzero] at h
  have hbits : d = ofMagnitude false 0 := h.symm
  rw [hbits] at hd
  contradiction

theorem digits_searchShortest_ne_zero {fuel : Nat} {e : Int} (hd : d.isZero = false)
    (h : (divPower num den (e - fuel)).1 ≠ 0) : (searchShortest d num den fuel e).digits ≠ 0 := by
  induction fuel generalizing e with
  | zero => simpa [searchShortest] using h
  | succ fuel ih =>
    unfold searchShortest
    split
    next s hfound =>
      have hreads := List.find?_some hfound
      exact digits_ne_zero_of_ofDecimal hd (beq_iff_eq.mp hreads)
    next =>
      refine ih ?_
      have hgrid : e - 1 - fuel = e - (fuel + 1 : Nat) := by omega
      rwa [hgrid]

theorem ratio_ne_zero (hd : d.isZero = false) : d.ratio.1 ≠ 0 ∧ d.ratio.2 ≠ 0 := by
  have hsignificand : d.significand ≠ 0 := by
    have hbits : d.bits.toNat % 2 ^ 63 ≠ 0 := by simpa [isZero] using hd
    unfold significand exponentField fractionField
    simp only [Nat.pow_eq]
    split <;> omega
  unfold ratio
  split <;> simp [hsignificand]

theorem shortest_eq (d : Double) :
    d.shortest = searchShortest d d.ratio.1 d.ratio.2 18
      (powerAbove d.ratio.1 d.ratio.2 4 (lowLog10 d.ratio.1 - highLog10 d.ratio.2)) :=
  rfl

/-- The shortest decimal of a double that is not zero is not zero. -/
theorem digits_shortest_ne_zero (hd : d.isZero = false) : d.shortest.digits ≠ 0 := by
  obtain ⟨hnum, hden⟩ := ratio_ne_zero hd
  have hstart := powerAbove_le d.ratio.1 d.ratio.2 4 (lowLog10 d.ratio.1 - highLog10 d.ratio.2)
  rw [shortest_eq]
  exact digits_searchShortest_ne_zero hd (divPower_ne_zero hnum hden (by omega))

end RuleWatch.Double
