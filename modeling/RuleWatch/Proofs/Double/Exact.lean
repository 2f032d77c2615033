import RuleWatch.Proofs.Double.Error

/-!
# Quotients that are rounded once

What a quotient is rounded to depends on its value alone (`ofRatio_congr`), and an integer below
`2 ^ 53` is a double itself, as are the powers of ten up to the twenty-second. So the quotient of
two such doubles is rounded as that of the numbers (`divMagnitude_eq`).
-/

namespace RuleWatch.Double

variable {num den num' den' : Nat}

/-! ## Quotients with the same value -/

theorem unitExponent_le_of_eq (hden : den ≠ 0) (hnum' : num' ≠ 0) (hden' : den' ≠ 0)
    (h : (num / den : ℚ) = num' / den') : unitExponent num' den' ≤ unitExponent num den := by
  by_contra hgreat
  have hleast : -1074 ≤ unitExponent num den := by
    obtain ⟨e, -, ⟨-, heq⟩ | ⟨-, heq⟩⟩ := unitExponent_eq num den
    all_goals
      rw [heq]
      exact le_max_right ..
  have hlt := cast_unitExponent_lt num hden
  have hle := le_cast_unitExponent hnum' hden' (by omega)
  rw [h] at hlt
  generalize unitExponent num den = e, unitExponent num' den' = e' at hgreat hlt hle
  have hnonneg : (0 : ℚ) ≤ num' / den' := by positivity
  have hpower : (2 : ℚ) ^ (-e') ≤ 2 ^ (-e - 1) := zpow_le_zpow_right₀ (by norm_num) (by omega)
  have hscaled := hle.trans (mul_le_mul_of_nonneg_left hpower hnonneg)
  rw [zpow_sub_one₀ (by norm_num), ← mul_assoc] at hscaled
  linarith

theorem roundQuotient_mul_right (num den : Nat) {k : Nat} (hk : k ≠ 0) :
    roundQuotient (num * k) (den * k) = roundQuotient num den := by
  have hpos := Nat.pos_of_ne_zero hk
  have hhalf (r : Nat) : 2 * (r * k) = 2 * r * k := (Nat.mul_assoc ..).symm
  simp only [roundQuotient, Nat.mul_div_mul_right _ _ hpos, Nat.mul_mod_mul_right, hhalf,
    Nat.mul_lt_mul_right hpos, beq_eq_decide, Nat.mul_left_inj hk]

theorem roundQuotient_congr (hden : den ≠ 0) (hden' : den' ≠ 0)
    (h : (num / den : ℚ) = num' / den') : roundQuotient num den = roundQuotient num' den' := by
  have hcross : num * den' = num' * den := by
    rw [div_eq_div_iff (by positivity) (by positivity)] at h
    exact_mod_cast h
  rw [← roundQuotient_mul_right num den hden', hcross, Nat.mul_comm den,
    roundQuotient_mul_right num' den' hden]

/-- Fractions with the same value are rounded to the same double. -/
theorem ofRatio_congr (negative : Bool) (hden : den ≠ 0) (hden' : den' ≠ 0)
    (h : (num / den : ℚ) = num' / den') :
    ofRatio negative num den = ofRatio negative num' den' := by
  have hzero : num = 0 ↔ num' = 0 := by
    have hcast : (num / den : ℚ) = 0 ↔ (num' / den' : ℚ) = 0 := by rw [h]
    simpa [hden, hden'] using hcast
  by_cases hnum : num = 0
  · simp [ofRatio, hnum, hzero.mp hnum]
  · have hnum' : num' ≠ 0 := fun heq ↦ hnum (hzero.mpr heq)
    have hunit : unitExponent num den = unitExponent num' den' :=
      le_antisymm (unitExponent_le_of_eq hden' hnum hden h.symm)
        (unitExponent_le_of_eq hden hnum' hden' h)
    have hround : roundQuotient (num * 2 ^ (-unitExponent num den).toNat)
        (den * 2 ^ (unitExponent num den).toNat) =
          roundQuotient (num' * 2 ^ (-unitExponent num den).toNat)
            (den' * 2 ^ (unitExponent num den).toNat) := by
      refine roundQuotient_congr (by positivity) (by positivity) ?_
      rw [cast_scaled, cast_scaled, h]
    unfold ofRatio
    simp only [hnum, hnum', hden, hden', scaled_eq, hround, ← hunit]

/-- The sign of a quotient has no part in how it is rounded. -/
theorem exists_ofRatio (num den : Nat) :
    ∃ m < 2 ^ 63, ∀ negative, ofRatio negative num den = ofMagnitude negative m := by
  unfold ofRatio
  split
  next => exact ⟨0, by decide, fun _ ↦ rfl⟩
  next =>
    dsimp only
    split
    next => exact ⟨2047 * 2 ^ 52, by decide, fun _ ↦ rfl⟩
    next hsmall => exact ⟨_, (Nat.not_le.mp hsmall).trans (by decide), fun _ ↦ rfl⟩

/-! ## Numbers that are doubles -/

theorem magnitude_ofInt {n : Nat} (h : n < 2 ^ 53) : (ofInt n).magnitude = n := by
  rcases Nat.eq_zero_or_pos n with rfl | hpos
  · have hsignificand : (ofInt (0 : Nat)).significand = 0 := by decide
    rw [magnitude, hsignificand, Nat.cast_zero, zero_mul]
  · have hfinite : (ofInt n).isFinite := isFinite_ofInt (by omega)
    have hle := unitExponent_le (k := 0) hpos.ne' one_ne_zero (by unfold maxSignificand; omega)
    have hunit := lt_unitExponent_of_le one_ne_zero hpos
    have hnone : (unitExponent n 1).toNat = 0 := by omega
    have hwhole (m : Nat) : roundQuotient m 1 = m := by simp [roundQuotient, Nat.mod_one]
    have hmagnitude := magnitude_ofRatio hpos.ne' one_ne_zero hunit hfinite
    rw [hnone, Nat.pow_zero, Nat.mul_one, hwhole] at hmagnitude
    refine hmagnitude.trans ?_
    obtain ⟨k, hk⟩ := Int.exists_eq_neg_ofNat hle
    simp [hk]

theorem magnitude_power {k : Nat} (h : k ≤ 22) :
    (ofDecimal false 1 k).magnitude = (10 ^ k : Nat) := by
  have hexact : ∀ k : Nat, k ≤ 22 → (ofDecimal false 1 k).significand *
      2 ^ (ofDecimal false 1 k).exponent.toNat =
        10 ^ k * 2 ^ (-(ofDecimal false 1 k).exponent).toNat := by decide +kernel
  have hk := hexact k h
  generalize ofDecimal false 1 k = d at hk ⊢
  have hscaled := cast_scaled d.significand 1 (-d.exponent)
  rw [neg_neg, hk, Nat.cast_one, div_one, Nat.one_mul, Nat.cast_mul,
    mul_div_cancel_right₀ _ (by positivity)] at hscaled
  exact hscaled.symm

/-! ## Quotients of doubles -/

/-- The quotient of two doubles that are integers is rounded as that of the integers. -/
theorem divMagnitude_eq {a b : Double} {m n : Nat} (ha : a.magnitude = m) (hb : b.magnitude = n)
    (hn : n ≠ 0) : a.divMagnitude b = ofRatio false m n := by
  have hsignificand : b.significand ≠ 0 := by
    intro hzero
    rw [magnitude, hzero, Nat.cast_zero, zero_mul] at hb
    exact hn (by exact_mod_cast hb.symm)
  unfold divMagnitude
  rw [scaled_eq]
  refine ofRatio_congr false (by positivity) hn ?_
  rw [cast_scaled, ← ha, ← hb, neg_sub, zpow_sub₀ (by norm_num)]
  unfold magnitude
  field_simp

end RuleWatch.Double
