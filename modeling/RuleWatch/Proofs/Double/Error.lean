import Mathlib.Algebra.Order.Field.Power
import Mathlib.Data.Nat.Cast.Order.Field
import Mathlib.Tactic.FieldSimp
import Mathlib.Tactic.Linarith
import Mathlib.Tactic.Positivity
import RuleWatch.Proofs.Double.Finite
import RuleWatch.Proofs.Double.Shortest

/-!
# How far a double is from what it stands for

What is not too small and within the range of doubles is rounded with an error of at most one part
in `2 ^ 53` (`error_ofRatio_le`). So are integers and powers of ten, and so the shortest
decimal of a double is hardly greater than the double (`shortest_le`).
-/

namespace RuleWatch.Double

variable {d : Double} {num den : Nat} {negative : Bool}

/-- A finite double without its sign. -/
def magnitude (d : Double) : ℚ :=
  d.significand * 2 ^ d.exponent

/-- The greatest error, as a part of what is rounded. -/
def unitError : ℚ := 1 / 2 ^ 53

theorem magnitude_nonneg (d : Double) : 0 ≤ d.magnitude := by
  unfold magnitude
  positivity

/-! ## Bits -/

theorem fractionField_ofMagnitude {m : Nat} (negative : Bool) (h : m < 2 ^ 63) :
    (ofMagnitude negative m).fractionField = m % 2 ^ 52 := by
  change (ofMagnitude negative m).bits.toNat % 2 ^ 52 = _
  rw [toNat_bits_ofMagnitude negative h]
  split <;> omega

/-- An exponent and a significand that has all its bits, or one bit too many, make such a double. -/
theorem magnitude_ofMagnitude {e : Int} {q : Nat} (negative : Bool) (he : -1074 ≤ e)
    (hlow : 2 ^ 52 ≤ q) (hhigh : q ≤ 2 ^ 53)
    (h : (e + 1074).toNat * 2 ^ 52 + q < 2047 * 2 ^ 52) :
    (ofMagnitude negative ((e + 1074).toNat * 2 ^ 52 + q)).magnitude = q * 2 ^ e := by
  have hfield := exponentField_ofMagnitude negative (m := (e + 1074).toNat * 2 ^ 52 + q) (by omega)
  have hfraction :=
    fractionField_ofMagnitude negative (m := (e + 1074).toNat * 2 ^ 52 + q) (by omega)
  unfold magnitude significand exponent
  rw [hfield, hfraction, if_neg (by omega), if_neg (by omega)]
  rcases Nat.lt_or_eq_of_le hhigh with hlt | rfl
  · have hexp : (((e + 1074).toNat * 2 ^ 52 + q) / 2 ^ 52 : Nat) - (1075 : Int) = e := by omega
    have hsig : ((e + 1074).toNat * 2 ^ 52 + q) % 2 ^ 52 + Nat.pow 2 52 = q := by
      change _ + 2 ^ 52 = q
      omega
    rw [hexp, hsig]
  · have hexp : (((e + 1074).toNat * 2 ^ 52 + 2 ^ 53) / 2 ^ 52 : Nat) - (1075 : Int) = e + 1 := by
      omega
    have hsig : ((e + 1074).toNat * 2 ^ 52 + 2 ^ 53) % 2 ^ 52 + Nat.pow 2 52 = 2 ^ 52 := by
      change _ + 2 ^ 52 = 2 ^ 52
      omega
    rw [hexp, hsig, zpow_add_one₀ (by norm_num)]
    push_cast
    ring

/-! ## Quotients -/

theorem div_le_roundQuotient (num den : Nat) : num / den ≤ roundQuotient num den := by
  unfold roundQuotient
  dsimp only
  split <;> omega

/-- A quotient is rounded by no more than a half. -/
theorem error_roundQuotient_le (num : Nat) (hden : den ≠ 0) :
    |(roundQuotient num den : ℚ) - num / den| ≤ 1 / 2 := by
  have hnat : 2 * num ≤ 2 * (den * roundQuotient num den) + den ∧
      2 * (den * roundQuotient num den) ≤ 2 * num + den := by
    have hdiv := Nat.div_add_mod num den
    have hmod := Nat.mod_lt num (Nat.pos_of_ne_zero hden)
    unfold roundQuotient
    dsimp only
    split
    next hup =>
      have hhalf : den ≤ 2 * (num % den) := by grind
      rw [Nat.mul_add_one]
      omega
    next hdown =>
      have hhalf : 2 * (num % den) ≤ den := by grind
      omega
  have hpos : (0 : ℚ) < den := by exact_mod_cast Nat.pos_of_ne_zero hden
  obtain ⟨hlow, hhigh⟩ := hnat
  rw [abs_le]
  constructor
  · have hcast : (2 : ℚ) * num ≤ 2 * (den * roundQuotient num den) + den := by exact_mod_cast hlow
    rw [neg_le_sub_iff_le_add, div_le_iff₀ hpos]
    linarith
  · have hcast : (2 : ℚ) * (den * roundQuotient num den) ≤ 2 * num + den := by
      exact_mod_cast hhigh
    rw [sub_le_iff_le_add, ← sub_le_iff_le_add', le_div_iff₀ hpos]
    linarith

/-- A shifted quotient is the quotient by a power of the base. -/
theorem cast_shifted (base : Nat) (hbase : base ≠ 0) (num den : Nat) (e : Int) :
    ((num * base ^ (-e).toNat : Nat) : ℚ) / (den * base ^ e.toNat : Nat) =
      num / den * base ^ (-e) := by
  have hcast : (base : ℚ) ≠ 0 := by exact_mod_cast hbase
  have hsplit : (base : ℚ) ^ (-e).toNat = base ^ (-e) * base ^ e.toNat := by
    rw [← zpow_natCast, ← zpow_natCast, ← zpow_add₀ hcast]
    congr 1
    omega
  push_cast
  rw [hsplit, ← mul_assoc, mul_div_mul_right _ _ (by positivity), mul_div_right_comm]

theorem cast_scaled (num den : Nat) (e : Int) :
    ((num * 2 ^ (-e).toNat : Nat) : ℚ) / (den * 2 ^ e.toNat : Nat) = num / den * 2 ^ (-e) :=
  cast_shifted 2 (by decide) num den e

/-- A quotient that is not too small has all of its bits. -/
theorem lt_unitExponent (hden : den ≠ 0) (h : 2 ^ 53 * den ≤ num * 2 ^ 200) :
    -1074 < unitExponent num den := by
  by_contra hsmall
  have hlt := scaled_unitExponent_lt num hden
  have hnone : (unitExponent num den).toNat = 0 := by omega
  rw [hnone, Nat.pow_zero, Nat.mul_one] at hlt
  have hpower : num * 2 ^ 200 ≤ num * 2 ^ (-unitExponent num den).toNat :=
    Nat.mul_le_mul_left _ (Nat.pow_le_pow_right (by decide) (by omega))
  omega

theorem lt_unitExponent_of_le (hden : den ≠ 0) (hle : den ≤ num) : -1074 < unitExponent num den :=
  lt_unitExponent hden <| Nat.mul_comm num _ ▸
    Nat.mul_le_mul (Nat.pow_le_pow_right (by decide) (by decide)) hle

theorem isFinite_infinity (negative : Bool) : (infinity negative).isFinite = false := by
  cases negative <;> decide

/-- A rounded quotient that is not out of range has the rounded significand in its bits. -/
theorem ofRatio_of_isFinite (hnum : num ≠ 0) (hden : den ≠ 0)
    (hfinite : (ofRatio negative num den).isFinite) :
    let magnitude := (unitExponent num den + 1074).toNat * 2 ^ 52 +
      roundQuotient (num * 2 ^ (-unitExponent num den).toNat)
        (den * 2 ^ (unitExponent num den).toNat)
    ofRatio negative num den = ofMagnitude negative magnitude ∧ magnitude < 2047 * 2 ^ 52 := by
  unfold ofRatio at hfinite ⊢
  rw [if_neg (by simp [hnum, hden])] at hfinite ⊢
  simp only [scaled_eq, Nat.pow_eq] at hfinite ⊢
  split at hfinite
  next => simp [isFinite_infinity] at hfinite
  next hrange => exact ⟨if_neg hrange, Nat.lt_of_not_le hrange⟩

/-- Scaled by the exponent of the unit, a quotient has all of its bits and no more. -/
theorem cast_unitExponent_lt (num : Nat) (hden : den ≠ 0) :
    (num / den * 2 ^ (-unitExponent num den) : ℚ) < 2 ^ 53 := by
  rw [← cast_scaled, div_lt_iff₀ (by positivity)]
  exact_mod_cast scaled_unitExponent_lt num hden

theorem le_cast_unitExponent (hnum : num ≠ 0) (hden : den ≠ 0)
    (hunit : -1074 < unitExponent num den) :
    (2 : ℚ) ^ 52 ≤ num / den * 2 ^ (-unitExponent num den) := by
  rw [← cast_scaled, le_div_iff₀ (by positivity)]
  exact_mod_cast le_scaled_unitExponent den hnum hunit

theorem magnitude_ofRatio (hnum : num ≠ 0) (hden : den ≠ 0)
    (hunit : -1074 < unitExponent num den) (hfinite : (ofRatio negative num den).isFinite) :
    (ofRatio negative num den).magnitude =
      roundQuotient (num * 2 ^ (-unitExponent num den).toNat)
        (den * 2 ^ (unitExponent num den).toNat) * 2 ^ unitExponent num den := by
  have hlow := le_scaled_unitExponent den hnum hunit
  have hhigh := scaled_unitExponent_lt num hden
  obtain ⟨heq, hrange⟩ := ofRatio_of_isFinite hnum hden hfinite
  rw [heq]
  refine magnitude_ofMagnitude negative (by omega) ?_ (roundQuotient_le hhigh) hrange
  refine le_trans ?_ (div_le_roundQuotient ..)
  exact (Nat.le_div_iff_mul_le (Nat.mul_pos (Nat.pos_of_ne_zero hden)
    (Nat.two_pow_pos _))).mpr hlow

/-- What is not too small and not out of range is rounded with a small error. -/
theorem error_ofRatio_le (hnum : num ≠ 0) (hden : den ≠ 0)
    (hunit : -1074 < unitExponent num den) (hfinite : (ofRatio negative num den).isFinite) :
    |(ofRatio negative num den).magnitude - num / den| ≤ num / den * unitError := by
  have hne : den * 2 ^ (unitExponent num den).toNat ≠ 0 :=
    Nat.mul_ne_zero hden (Nat.two_pow_pos _).ne'
  have hround := error_roundQuotient_le (num * 2 ^ (-unitExponent num den).toNat) hne
  have hscaled := le_cast_unitExponent hnum hden hunit
  rw [cast_scaled] at hround
  rw [magnitude_ofRatio hnum hden hunit hfinite]
  generalize unitExponent num den = e at hround hscaled ⊢
  generalize (roundQuotient _ _ : ℚ) = q at hround ⊢
  have hpower : (0 : ℚ) < 2 ^ e := by positivity
  rw [zpow_neg] at hround hscaled
  have hquotient : (num / den : ℚ) = num / den * (2 ^ e)⁻¹ * 2 ^ e := by field_simp
  generalize (num / den * (2 ^ e)⁻¹ : ℚ) = x at hround hscaled hquotient
  rw [hquotient, ← sub_mul, abs_mul, abs_of_pos hpower, mul_right_comm]
  refine mul_le_mul_of_nonneg_right (hround.trans ?_) hpower.le
  unfold unitError
  linarith

/-! ## Integers, powers of ten and products -/

/-- A number with its greatest error. -/
def withError (x : ℚ) : ℚ := x * (1 + unitError)

theorem withError_mono {x y : ℚ} (h : x ≤ y) : withError x ≤ withError y :=
  mul_le_mul_of_nonneg_right h (by unfold unitError; norm_num)

theorem le_withError {x : ℚ} (h : 0 ≤ x) : x ≤ withError x :=
  le_mul_of_one_le_right h (by unfold unitError; norm_num)

theorem magnitude_ofRatio_le (hden : den ≠ 0) (hle : den ≤ num)
    (hfinite : (ofRatio negative num den).isFinite) :
    (ofRatio negative num den).magnitude ≤ withError (num / den) := by
  have hunit := lt_unitExponent_of_le hden hle
  have herror := (abs_le.mp (error_ofRatio_le (by omega) hden hunit hfinite)).2
  unfold withError
  linarith

theorem magnitude_ofInt_le {n : Nat} (h : n ≤ 2 ^ 64) :
    (ofInt n).magnitude ≤ withError n := by
  rcases Nat.eq_zero_or_pos n with rfl | hpos
  · have hzero : (ofInt (0 : Nat)).magnitude = 0 := by
      have hsignificand : (ofInt (0 : Nat)).significand = 0 := by decide
      rw [magnitude, hsignificand, Nat.cast_zero, zero_mul]
    rw [hzero, withError, Nat.cast_zero, zero_mul]
  · have hfinite := isFinite_ofInt (n := n) (by omega)
    have hround := magnitude_ofRatio_le one_ne_zero hpos hfinite
    rwa [Nat.cast_one, div_one] at hround

theorem magnitude_power_le {n : Nat} (h : n ≤ 308) :
    (ofDecimal false 1 n).magnitude ≤ withError (10 ^ n) := by
  have hrange : ofDecimal false 1 n = ofRatio false (10 ^ n) 1 := by
    have hlog : lowLog10 1 = 0 ∧ highLog10 1 = 1 := by decide
    rw [ofDecimal, if_neg one_ne_zero, if_neg (by omega), if_neg (by omega), if_pos (by omega),
      Nat.one_mul]
    rfl
  have hgreatest : ∀ n ≤ 308, 10 ^ n ≤ maxFinite := by decide +kernel
  have hfinite : (ofRatio false (10 ^ n) 1).isFinite :=
    isFinite_ofRatio false ((hgreatest n h).trans_eq (Nat.one_mul maxFinite).symm)
  have hround := magnitude_ofRatio_le one_ne_zero (Nat.one_le_pow n 10 (by decide)) hfinite
  rw [hrange]
  simpa using hround

/-- A product that is no greater than the greatest finite double is rounded to a finite one. -/
theorem isFinite_mulMagnitude {a b : Double} (h : a.magnitude * b.magnitude ≤ maxFinite) :
    (a.mulMagnitude b).isFinite := by
  unfold mulMagnitude
  rw [scaled_eq]
  refine isFinite_ofRatio false ?_
  have hratio :
      ((a.significand * b.significand * 2 ^ (- -(a.exponent + b.exponent)).toNat : Nat) : ℚ) /
        (1 * 2 ^ (-(a.exponent + b.exponent)).toNat : Nat) = a.magnitude * b.magnitude := by
    rw [cast_scaled, neg_neg, zpow_add₀ (by norm_num)]
    unfold magnitude
    push_cast
    ring
  rw [← hratio, div_le_iff₀ (by positivity)] at h
  rw [Nat.mul_comm _ maxFinite]
  generalize maxFinite = greatest at h ⊢
  exact_mod_cast h

/-! ## Decimals -/

/-- What a decimal stands for. -/
def Shortest.value (s : Shortest) : ℚ :=
  s.digits * 10 ^ s.exp

theorem Shortest.cast_value (s : Shortest) :
    ((s.digits * 10 ^ s.exp.toNat : Nat) : ℚ) / (1 * 10 ^ (-s.exp).toNat : Nat) = s.value := by
  have hshifted := cast_shifted 10 (by decide) s.digits 1 (-s.exp)
  simpa [value] using hshifted

/-- A decimal that is rounded to a finite double, and not to zero, is rounded as a quotient. -/
theorem ofDecimal_of_isFinite {digits : Nat} {exp : Int}
    (hfinite : (ofDecimal negative digits exp).isFinite)
    (hzero : (ofDecimal negative digits exp).isZero = false) :
    ofDecimal negative digits exp =
      ofRatio negative (digits * 10 ^ exp.toNat) (1 * 10 ^ (-exp).toNat) := by
  have hnone : (ofMagnitude negative 0).isZero := by cases negative <;> decide
  unfold ofDecimal at hfinite hzero ⊢
  split_ifs at hfinite hzero ⊢ with hdigits hgreat hsmall hexp
  · rw [hnone] at hzero
    contradiction
  · rw [isFinite_infinity] at hfinite
    contradiction
  · rw [hnone] at hzero
    contradiction
  · have hshift : (-exp).toNat = 0 := by omega
    rw [hshift]
    rfl
  · have hshift : exp.toNat = 0 := by omega
    rw [hshift, Nat.pow_zero, Nat.mul_one, Nat.one_mul]
    rfl

/-- A decimal that reads back as a double is hardly greater than it, or than one. -/
theorem value_le_of_ofDecimal {s : Shortest} (hfinite : d.isFinite) (hd : d.isZero = false)
    (h : ofDecimal false s.digits s.exp = d) : s.value * (1 - unitError) ≤ max 1 d.magnitude := by
  subst h
  have hvalue := s.cast_value
  have hratio := ofDecimal_of_isFinite hfinite hd
  rw [hratio] at hfinite ⊢
  have hpos : 1 * 10 ^ (-s.exp).toNat ≠ 0 := by positivity
  generalize s.digits * 10 ^ s.exp.toNat = num, 1 * 10 ^ (-s.exp).toNat = den at *
  rw [← hvalue]
  have hcast : (0 : ℚ) < den := by exact_mod_cast Nat.pos_of_ne_zero hpos
  rcases Nat.lt_or_ge num den with hlt | hle
  · refine le_max_of_le_left ?_
    have hone : (num / den : ℚ) ≤ 1 := by
      rw [div_le_one hcast]
      exact_mod_cast hlt.le
    unfold unitError
    have hratio : (0 : ℚ) ≤ num / den := div_nonneg num.cast_nonneg hcast.le
    linarith
  · refine le_max_of_le_right ?_
    have hunit := lt_unitExponent_of_le hpos hle
    have herror := (abs_le.mp (error_ofRatio_le (by omega) hpos hunit hfinite)).1
    linarith

theorem magnitude_eq_ratio (d : Double) : d.magnitude = d.ratio.1 / d.ratio.2 := by
  unfold magnitude ratio
  split
  next h =>
    obtain ⟨k, hk⟩ := Int.eq_ofNat_of_zero_le h
    simp [hk]
  next h =>
    obtain ⟨k, hk⟩ := Int.eq_ofNat_of_zero_le (Int.neg_nonneg.mpr (Int.not_le.mp h).le)
    rw [Int.neg_eq_comm] at hk
    simp [← hk, div_eq_mul_inv]

theorem cast_divPower_le (num den : Nat) (e : Int) :
    ((divPower num den e).1 : ℚ) ≤ num / den * 10 ^ (-e) := by
  have hshifted := cast_shifted 10 (by decide) num den e
  rw [Nat.cast_ofNat] at hshifted
  rw [divPower_fst, ← hshifted]
  exact Nat.cast_div_le

theorem searchShortest_spec {fuel : Nat} {e : Int} {s : Shortest}
    (h : searchShortest d num den fuel e = s) :
    ofDecimal false s.digits s.exp = d ∨ s.value ≤ num / den := by
  induction fuel generalizing e with
  | zero =>
    obtain rfl := h
    refine .inr ?_
    calc ((divPower num den e).1 : ℚ) * 10 ^ e
        ≤ num / den * 10 ^ (-e) * 10 ^ e :=
          mul_le_mul_of_nonneg_right (cast_divPower_le num den e) (by positivity)
      _ = num / den := by
          rw [mul_assoc, zpow_neg_mul_zpow_self _ (by norm_num), mul_one]
  | succ fuel ih =>
    unfold searchShortest at h
    split at h
    next s' hfound =>
      obtain rfl := h
      have hreads := List.find?_some hfound
      exact .inl (beq_iff_eq.mp hreads)
    next => exact ih h

/-- The shortest decimal of a double is hardly greater than the double, or than one. -/
theorem shortest_le (hfinite : d.isFinite) (hd : d.isZero = false) :
    d.shortest.value * (1 - unitError) ≤ max 1 d.magnitude := by
  rcases searchShortest_spec (shortest_eq d).symm with hreads | hle
  · exact value_le_of_ofDecimal hfinite hd hreads
  · rw [← magnitude_eq_ratio] at hle
    refine le_max_of_le_right ?_
    have hpos : 0 ≤ d.shortest.value := by
      unfold Shortest.value
      positivity
    unfold unitError
    linarith

/-! ## The greatest doubles -/

theorem cast_maxFinite : (maxFinite : ℚ) = (2 ^ 53 - 1) * 2 ^ maxExponent := by
  unfold maxFinite maxSignificand
  push_cast
  norm_num

/-- No power of ten above the greatest is within the range of doubles. -/
theorem exp_le_of_zpow_le {e : Int} {x : ℚ} (h : (10 : ℚ) ^ e ≤ x)
    (hx : withError (withError x) ≤ maxFinite) : e ≤ 308 := by
  have hpos : 0 ≤ x := le_trans (zpow_nonneg (by norm_num) e) h
  have hle : (10 : ℚ) ^ e ≤ maxFinite :=
    (h.trans (le_withError hpos)).trans
      ((le_withError (hpos.trans (le_withError hpos))).trans hx)
  have hnat : maxFinite < 10 ^ 309 := by decide +kernel
  have hcast : (maxFinite : ℚ) < 10 ^ (309 : Int) := by
    rw [zpow_ofNat]
    generalize maxFinite = greatest at hnat
    exact_mod_cast hnat
  have hlt := (zpow_lt_zpow_iff_right₀ (by norm_num)).mp (hle.trans_lt hcast)
  omega

/-- Below the four greatest doubles there is room for the errors of two factors. -/
theorem shortest_le_maxFinite (hfinite : d.isFinite) (hd : d.isZero = false)
    (h : d.magnitude ≤ (2 ^ 53 - 5) * 2 ^ maxExponent) :
    withError (withError d.shortest.value) ≤ maxFinite := by
  have hshortest := shortest_le hfinite hd
  rw [cast_maxFinite]
  have hone : (1 : ℚ) ≤ 2 ^ maxExponent := one_le_pow₀ (by norm_num)
  generalize (2 : ℚ) ^ maxExponent = greatest at h hone ⊢
  have hmax : max 1 d.magnitude ≤ (2 ^ 53 - 5) * greatest := max_le (by linarith) h
  generalize d.shortest.value = x at hshortest ⊢
  unfold withError unitError at *
  linarith

/-- Any double that is greater than all but four is one of these. -/
theorem exists_of_lt_magnitude (hfinite : d.isFinite) (hsign : d.isNegative = false)
    (h : (2 ^ 53 - 5) * 2 ^ maxExponent < d.magnitude) :
    ∃ k < 4, d = ofMagnitude false (2047 * 2 ^ 52 - 1 - k) := by
  have hsignificand := d.significand_le
  have hexponent := exponent_le hfinite
  have hgreatest : d.exponent = maxExponent := by
    by_contra hne
    have hpower : (2 : ℚ) ^ d.exponent ≤ 2 ^ maxExponent / 2 := by
      rw [← zpow_natCast, div_eq_mul_inv, ← zpow_sub_one₀ (by norm_num)]
      exact zpow_le_zpow_right₀ (by norm_num) (by omega)
    have hcast : (d.significand : ℚ) ≤ 2 ^ 53 - 1 := by
      have hlt : d.significand + 1 ≤ 2 ^ 53 := Nat.lt_of_le_of_lt hsignificand maxSignificand_lt
      rw [le_sub_iff_add_le]
      exact_mod_cast hlt
    have hpos : (0 : ℚ) ≤ 2 ^ d.exponent := by positivity
    have hproduct := mul_le_mul hcast hpower hpos (by norm_num)
    unfold magnitude at h
    linarith
  have hlow : 2 ^ 53 - 5 < d.significand := by
    unfold magnitude at h
    rw [hgreatest, zpow_natCast] at h
    have hcast := lt_of_mul_lt_mul_right h (by positivity)
    norm_num at hcast
    exact_mod_cast hcast
  have hbits : d.bits.toNat = 2047 * 2 ^ 52 - 1 - (maxSignificand - d.significand) := by
    have hpositive : d.bits.toNat < 2 ^ 63 := by simpa [isNegative] using hsign
    unfold exponent significand exponentField fractionField maxExponent at *
    simp only [Nat.pow_eq] at *
    unfold maxSignificand at *
    split_ifs at *
    omega
  refine ⟨maxSignificand - d.significand, by unfold maxSignificand; omega, ?_⟩
  have hmagnitude : d = ofMagnitude false d.bits.toNat := by
    cases d
    simp [ofMagnitude]
  rw [← hbits]
  exact hmagnitude

end RuleWatch.Double
