import RuleWatch.Proofs.Double.Exact

/-!
# Short decimals are found

The double that is nearest to a decimal of few digits has a shortest decimal that is no longer
(`isShort_ofRatio`): the search begins on a grid that is no finer than that of the decimal and comes
to that grid in time, where the decimal is one of the neighbours.
-/

namespace RuleWatch.Double

variable {d : Double} {num den : Nat}

/-! ## Grids -/

theorem lt_cast_divPower (num : Nat) (hden : den ≠ 0) (e : Int) :
    (num / den * 10 ^ (-e) : ℚ) < (divPower num den e).1 + 1 := by
  have hshifted := cast_shifted 10 (by decide) num den e
  rw [Nat.cast_ofNat] at hshifted
  have hpos : 0 < den * 10 ^ e.toNat := by positivity
  rw [divPower_fst, ← hshifted, div_lt_iff₀ (by exact_mod_cast hpos)]
  have hlt := Nat.lt_mul_div_succ (num * 10 ^ (-e).toNat) hpos
  rw [Nat.mul_comm (den * 10 ^ e.toNat)] at hlt
  exact_mod_cast hlt

/-- What lies above a quotient is a power of ten on whose grid it is nothing. -/
theorem lt_zpow_of_divPower (hden : den ≠ 0) {e : Int} (h : (divPower num den e).1 = 0) :
    (num / den : ℚ) < 10 ^ e := by
  have hlt := lt_cast_divPower num hden e
  rwa [h, Nat.cast_zero, zero_add, zpow_neg, ← div_eq_mul_inv, div_lt_one (by positivity)] at hlt

theorem zpow_le_of_divPower {e : Int} (h : (divPower num den e).1 ≠ 0) :
    (10 : ℚ) ^ e ≤ num / den := by
  have hle := cast_divPower_le num den e
  have hone : (1 : ℚ) ≤ (divPower num den e).1 := by exact_mod_cast Nat.pos_of_ne_zero h
  have hscaled := hone.trans hle
  rwa [zpow_neg, ← div_eq_mul_inv, one_le_div (by positivity)] at hscaled

theorem mem_neighbours_iff {s : Shortest} {e : Int} :
    s ∈ neighbours num den e ↔
      s.exp = e ∧ (s.digits = (divPower num den e).1 ∨ s.digits = (divPower num den e).1 + 1) := by
  obtain ⟨digits, exp⟩ := s
  unfold neighbours
  generalize divPower num den e = grid
  obtain ⟨q, r, n⟩ := grid
  dsimp only
  split <;> simp only [List.mem_cons, List.not_mem_nil, or_false, Shortest.mk.injEq] <;> tauto

/-- A decimal that is less than one step of its grid away is a neighbour. -/
theorem mem_neighbours {m : Nat} {e : Int} (hden : den ≠ 0)
    (h : |(num / den * 10 ^ (-e) : ℚ) - m| < 1) : ⟨m, e⟩ ∈ neighbours num den e := by
  obtain ⟨hlow, hhigh⟩ := abs_lt.mp h
  have hle := cast_divPower_le num den e
  have hlt := lt_cast_divPower num hden e
  refine mem_neighbours_iff.mpr ⟨rfl, ?_⟩
  generalize (divPower num den e).1 = q at hle hlt ⊢
  have hbelow : q < m + 1 := by exact_mod_cast (by linarith : (q : ℚ) < m + 1)
  have habove : m < q + 1 + 1 := by exact_mod_cast (by linarith : (m : ℚ) < q + 1 + 1)
  dsimp only
  omega

/-! ## The search -/

/-- A decimal that is found on the way is found, if not another one on a coarser grid. -/
theorem searchShortest_of_mem {s : Shortest} {fuel : Nat} {e : Int}
    (hmem : s ∈ neighbours num den s.exp) (hreads : ofDecimal false s.digits s.exp = d)
    (hle : s.exp ≤ e) (hlt : e < s.exp + fuel) :
    let found := searchShortest d num den fuel e
    found ∈ neighbours num den found.exp ∧ ofDecimal false found.digits found.exp = d ∧
      s.exp ≤ found.exp ∧ found.exp ≤ e := by
  induction fuel generalizing e with
  | zero => omega
  | succ fuel ih =>
    unfold searchShortest
    split
    next found hfound =>
      have hneighbour := List.mem_of_find?_eq_some hfound
      have hread := List.find?_some hfound
      have hexp := (mem_neighbours_iff.mp hneighbour).1
      exact ⟨hexp ▸ hneighbour, beq_iff_eq.mp hread, by omega, by omega⟩
    next hnone =>
      have hother : s.exp ≠ e := by
        rintro rfl
        exact List.find?_eq_none.mp hnone s hmem (beq_iff_eq.mpr hreads)
      obtain ⟨hneighbour, hfound, hlow, hhigh⟩ :=
        ih (e := e - 1) (by omega) (by omega)
      exact ⟨hneighbour, hfound, hlow, by omega⟩

theorem powerAbove_spec (num den fuel : Nat) (e : Int) :
    let found := powerAbove num den fuel e
    e ≤ found ∧ ((divPower num den found).1 = 0 ∨ found = e + fuel) ∧
      (found = e ∨ (divPower num den (found - 1)).1 ≠ 0) := by
  induction fuel generalizing e with
  | zero => simp [powerAbove]
  | succ fuel ih =>
    unfold powerAbove
    split
    next hzero => exact ⟨le_rfl, .inl hzero, .inl rfl⟩
    next hnonzero =>
      obtain ⟨hle, habove, hbelow⟩ := ih (e + 1)
      refine ⟨by omega, habove.imp_right fun h ↦ by omega, .inr ?_⟩
      rcases hbelow with h | h
      · rwa [h, add_sub_cancel_right]
      · exact h

/-- The bounds on a logarithm are not far apart. -/
theorem highLog10_le {n : Nat} (h : n.log2 ≤ 200) : highLog10 n ≤ lowLog10 n + 2 := by
  rw [lowLog10_eq, highLog10_eq]
  omega

/-- The search for the power above a quotient begins no more than four powers below it. -/
theorem le_zpow_start (hden : den ≠ 0) (hlog : num.log2 ≤ 200) (hlog' : den.log2 ≤ 200) :
    (num / den : ℚ) ≤ 10 ^ (lowLog10 num - highLog10 den + 4) := by
  have hup : (num : ℚ) ≤ 10 ^ highLog10 num := by
    rw [highLog10_eq, zpow_natCast]
    exact_mod_cast le_pow_log2 num
  have hdown : (10 : ℚ) ^ lowLog10 den ≤ den := by
    rw [lowLog10_eq, zpow_natCast]
    exact_mod_cast pow_log2_le hden
  have hnum := highLog10_le hlog
  have hden := highLog10_le hlog'
  calc (num / den : ℚ)
      ≤ 10 ^ highLog10 num / 10 ^ lowLog10 den :=
        div_le_div₀ (by positivity) hup (by positivity) hdown
    _ = 10 ^ (highLog10 num - lowLog10 den) := (zpow_sub₀ (by norm_num) ..).symm
    _ ≤ 10 ^ (lowLog10 num - highLog10 den + 4) :=
        zpow_le_zpow_right₀ (by norm_num) (by omega)

/-- So it ends on a power that is above the quotient by less than one more power. -/
theorem powerAbove_bounds (hnum : num ≠ 0) (hden : den ≠ 0) (hlog : num.log2 ≤ 200)
    (hlog' : den.log2 ≤ 200) :
    let found := powerAbove num den 4 (lowLog10 num - highLog10 den)
    (num / den : ℚ) ≤ 10 ^ found ∧ (10 : ℚ) ^ (found - 1) ≤ num / den := by
  obtain ⟨-, habove, hbelow⟩ := powerAbove_spec num den 4 (lowLog10 num - highLog10 den)
  refine ⟨?_, ?_⟩
  · rcases habove with hzero | hend
    · exact (lt_zpow_of_divPower hden hzero).le
    · rw [hend]
      exact le_zpow_start hden hlog hlog'
  · rcases hbelow with hstart | hnonzero
    · rw [hstart]
      refine le_trans (zpow_le_zpow_right₀ (by norm_num) ?_)
        (zpow_le_of_divPower (divPower_ne_zero hnum hden le_rfl))
      omega
    · exact zpow_le_of_divPower hnonzero

/-! ## Short decimals -/

theorem isZero_eq_false (h : d.magnitude ≠ 0) : d.isZero = false := by
  refine Bool.eq_false_iff.mpr fun hzero ↦ h ?_
  have hbits : d.bits.toNat % 2 ^ 63 = 0 := by simpa [isZero] using hzero
  have hsignificand : d.significand = 0 := by
    unfold significand exponentField fractionField
    simp only [Nat.pow_eq]
    split <;> omega
  rw [magnitude, hsignificand, Nat.cast_zero, zero_mul]

theorem log2_le_of_lt {n : Nat} (h : n < 2 ^ 54) : n.log2 ≤ 200 := by
  rcases Nat.eq_zero_or_pos n with rfl | hpos
  · decide
  · have hlt := (Nat.log2_lt hpos.ne').mpr h
    omega

/-- A double that is neither too small nor too great is a fraction of numbers that are not too
great. -/
theorem log2_ratio_le (hlow : (10 : ℚ) ^ (-23 : Int) ≤ d.magnitude)
    (hhigh : d.magnitude ≤ 10 ^ 15) : d.ratio.1.log2 ≤ 200 ∧ d.ratio.2.log2 ≤ 200 := by
  have hsignificand := d.significand_le.trans_lt maxSignificand_lt
  unfold ratio
  unfold magnitude at hlow hhigh
  split
  next he =>
    obtain ⟨k, hk⟩ := Int.eq_ofNat_of_zero_le he
    rw [hk, zpow_natCast] at hhigh
    refine ⟨log2_le_of_lt ?_, log2_le_of_lt (n := 1) (by decide)⟩
    have hle : d.significand * 2 ^ k ≤ 10 ^ 15 := by exact_mod_cast hhigh
    rw [hk]
    exact hle.trans_lt (by norm_num)
  next he =>
    refine ⟨log2_le_of_lt (by omega), ?_⟩
    change (2 ^ (-d.exponent).toNat).log2 ≤ 200
    rw [Nat.log2_two_pow]
    by_contra hgreat
    have hpower : (2 : ℚ) ^ d.exponent ≤ 2 ^ (-200 : Int) :=
      zpow_le_zpow_right₀ (by norm_num) (by omega)
    have hcast : (d.significand : ℚ) ≤ 2 ^ 53 := by exact_mod_cast hsignificand.le
    have hscaled := mul_le_mul hcast hpower (by positivity) (by positivity)
    have hsmall : (2 : ℚ) ^ 53 * 2 ^ (-200 : Int) < 10 ^ (-23 : Int) := by norm_num
    linarith

/-- A decimal of few digits, none of them far behind the point, is rounded as a quotient. -/
theorem ofDecimal_neg (negative : Bool) {digits k : Nat} (hdigits : digits ≤ 10 ^ 14)
    (hk : k ≤ 22) : ofDecimal negative digits (-k) = ofRatio negative digits (10 ^ k) := by
  unfold ofDecimal
  split_ifs with hzero hgreat hsmall hexp
  · simp [ofRatio, hzero]
  · have hlog : digits.log2 < 47 := (Nat.log2_lt hzero).mpr (by omega)
    rw [lowLog10_eq] at hgreat
    omega
  · rw [highLog10_eq] at hsmall
    omega
  · obtain rfl : k = 0 := by omega
    simp
  · rw [neg_neg, Int.toNat_natCast]
    rfl

/-- A decimal that reads back as a double and has few digits, none of them far behind the point. -/
structure Shortest.IsShort (s : Shortest) (d : Double) : Prop where
  reads : ofDecimal false s.digits s.exp = d
  exp : -22 ≤ s.exp
  digits : s.digits ≤ 10 ^ 14 + 2
  value : s.value ≤ 10 ^ 14 + 2

section

variable {digits k : Nat}

theorem isFinite_ofRatio_of_short (hdigits : digits ≤ 10 ^ 14) (k : Nat) :
    (ofRatio false digits (10 ^ k)).isFinite := by
  refine isFinite_ofRatio false ?_
  have hgreatest : 10 ^ 14 ≤ maxFinite := by decide +kernel
  exact (hdigits.trans hgreatest).trans (Nat.le_mul_of_pos_left _ (by positivity))

/-- The double that is nearest to a short decimal is close to it on the grid of its digits. -/
theorem error_of_short (hpos : digits ≠ 0) (hdigits : digits ≤ 10 ^ 14) (hk : k ≤ 22) :
    |(ofRatio false digits (10 ^ k)).magnitude * 10 ^ k - digits| ≤ 1 / 10 := by
  have hpower : 10 ^ k ≤ 10 ^ 22 := Nat.pow_le_pow_right (by decide) hk
  have hone : 0 < 10 ^ k := by positivity
  have hunit : -1074 < unitExponent digits (10 ^ k) := lt_unitExponent hone.ne' (by omega)
  have herror := error_ofRatio_le hpos hone.ne' hunit (isFinite_ofRatio_of_short hdigits k)
  push_cast at herror
  generalize (ofRatio false digits (10 ^ k)).magnitude = x at herror ⊢
  have hscale : (0 : ℚ) < 10 ^ k := by positivity
  generalize (10 : ℚ) ^ k = p at herror hscale ⊢
  have hsplit : x * p - digits = (x - digits / p) * p := by field_simp
  have hmany : (digits : ℚ) ≤ 10 ^ 14 := by exact_mod_cast hdigits
  rw [hsplit, abs_mul, abs_of_pos hscale]
  calc |x - digits / p| * p
      ≤ digits / p * unitError * p := mul_le_mul_of_nonneg_right herror hscale.le
    _ = digits * unitError := by field_simp
    _ ≤ 1 / 10 := by
      unfold unitError
      linarith

theorem isZero_ofRatio_of_short (hpos : digits ≠ 0) (hdigits : digits ≤ 10 ^ 14) (hk : k ≤ 22) :
    (ofRatio false digits (10 ^ k)).isZero = false := by
  have hlow := (abs_le.mp (error_of_short hpos hdigits hk)).1
  refine isZero_eq_false fun h ↦ ?_
  have hone : (1 : ℚ) ≤ digits := by exact_mod_cast Nat.pos_of_ne_zero hpos
  rw [h, zero_mul] at hlow
  linarith

/-- Where the search begins for a double between two powers of ten. -/
theorem exists_start (hlow : 9 / 10 ≤ d.magnitude * 10 ^ k)
    (hhigh : d.magnitude * 10 ^ k < 10 ^ 15) (hk : k ≤ 22) :
    ∃ start : Int, -k ≤ start ∧ start ≤ 15 - k ∧
      d.shortest = searchShortest d d.ratio.1 d.ratio.2 18 start := by
  have hzero : d.isZero = false := isZero_eq_false fun h ↦ by
    rw [h, zero_mul] at hlow
    norm_num at hlow
  have hpower : (0 : ℚ) ≤ 10 ^ k := by positivity
  have hscale (e : Int) : (10 : ℚ) ^ (e + k) = 10 ^ e * 10 ^ k := by
    rw [zpow_add₀ (by norm_num), zpow_natCast]
  have hupper {e : Int} (h : d.magnitude ≤ 10 ^ e) : -1 < e + k := by
    have hle := hlow.trans (mul_le_mul_of_nonneg_right h hpower)
    refine (zpow_lt_zpow_iff_right₀ (by norm_num : (1 : ℚ) < 10)).mp ?_
    rw [hscale]
    exact lt_of_lt_of_le (by norm_num) hle
  have hlower {e : Int} (h : 10 ^ e ≤ d.magnitude) : e + k < 15 := by
    refine (zpow_lt_zpow_iff_right₀ (by norm_num : (1 : ℚ) < 10)).mp (lt_of_le_of_lt ?_ hhigh)
    rw [hscale]
    exact mul_le_mul_of_nonneg_right h hpower
  obtain ⟨hnum, hden⟩ := ratio_ne_zero hzero
  obtain ⟨hlog, hlog'⟩ : d.ratio.1.log2 ≤ 200 ∧ d.ratio.2.log2 ≤ 200 := by
    refine log2_ratio_le (le_of_not_ge fun hsmall ↦ ?_) ?_
    · have hexp := hupper hsmall
      omega
    · exact (le_mul_of_one_le_right d.magnitude_nonneg (one_le_pow₀ (by norm_num))).trans hhigh.le
  obtain ⟨habove, hbelow⟩ := powerAbove_bounds hnum hden hlog hlog'
  rw [← magnitude_eq_ratio] at habove hbelow
  have hfine := hupper habove
  have hcoarse := hlower hbelow
  exact ⟨_, by omega, by omega, d.shortest_eq⟩

/-- A neighbour on a grid that is not too fine is short. -/
theorem isShort_of_mem_neighbours {s : Shortest} (hfinite : d.isFinite) (hzero : d.isZero = false)
    (hreads : ofDecimal false s.digits s.exp = d)
    (hmem : s ∈ neighbours d.ratio.1 d.ratio.2 s.exp) (hfine : -k ≤ s.exp) (hk : k ≤ 22)
    (hscaled : d.magnitude * 10 ^ k ≤ 10 ^ 14 + 1) : s.IsShort d := by
  refine
    { reads := hreads
      exp := by omega
      digits := ?digits
      value := ?value }
  case digits =>
    have hfloor := cast_divPower_le d.ratio.1 d.ratio.2 s.exp
    have hpower : (10 : ℚ) ^ (-s.exp) ≤ 10 ^ k := by
      rw [← zpow_natCast]
      exact zpow_le_zpow_right₀ (by norm_num) (by omega)
    rw [← magnitude_eq_ratio] at hfloor
    have hle := hfloor.trans ((mul_le_mul_of_nonneg_left hpower d.magnitude_nonneg).trans hscaled)
    have hdigit := (mem_neighbours_iff.mp hmem).2
    generalize (divPower d.ratio.1 d.ratio.2 s.exp).1 = q at hle hdigit
    have hq : q ≤ 10 ^ 14 + 1 := by exact_mod_cast hle
    omega
  case value =>
    have hvalue := value_le_of_ofDecimal hfinite hzero hreads
    have hle : d.magnitude ≤ d.magnitude * 10 ^ k :=
      le_mul_of_one_le_right d.magnitude_nonneg (one_le_pow₀ (by norm_num))
    have hmax : max 1 d.magnitude ≤ 10 ^ 14 + 1 := max_le (by norm_num) (hle.trans hscaled)
    unfold unitError at hvalue
    linarith

/-- The shortest decimal of the double that is nearest to a short one is short. -/
theorem isShort_ofRatio (hpos : digits ≠ 0) (hdigits : digits ≤ 10 ^ 14) (hk : k ≤ 22) :
    (ofRatio false digits (10 ^ k)).shortest.IsShort (ofRatio false digits (10 ^ k)) := by
  have hstep := error_of_short hpos hdigits hk
  have hreads := ofDecimal_neg false hdigits hk
  have hfinite := isFinite_ofRatio_of_short hdigits k
  have hzero := isZero_ofRatio_of_short hpos hdigits hk
  generalize ofRatio false digits (10 ^ k) = d at hstep hreads hfinite hzero ⊢
  have hone : (1 : ℚ) ≤ digits := by exact_mod_cast Nat.pos_of_ne_zero hpos
  have hmany : (digits : ℚ) ≤ 10 ^ 14 := by exact_mod_cast hdigits
  obtain ⟨hlow, hhigh⟩ := abs_le.mp hstep
  obtain ⟨start, hstart, hend, hshortest⟩ := exists_start (d := d) (by linarith) (by linarith) hk
  -- The decimal itself is a neighbour on its grid, and the search begins on no finer one.
  have hmem : ⟨digits, -k⟩ ∈ neighbours d.ratio.1 d.ratio.2 (-k) := by
    refine mem_neighbours (ratio_ne_zero hzero).2 ?_
    rw [neg_neg, zpow_natCast, ← magnitude_eq_ratio]
    exact hstep.trans_lt (by norm_num)
  obtain ⟨hneighbour, hfound, hfine, -⟩ :=
    searchShortest_of_mem hmem hreads hstart (by omega : start < -k + (18 : Nat))
  rw [← hshortest] at hneighbour hfound hfine
  exact isShort_of_mem_neighbours hfinite hzero hfound hneighbour hfine hk (by linarith)

end

end RuleWatch.Double
