import RuleWatch.Proofs.Double.Short
import RuleWatch.Proofs.Json.Reread

/-!
# Doubles that come back

The double that is nearest to a short decimal is written with few digits, which are all read: as an
integer that is a double, divided by a power of ten that is one as well. So what is read is the
quotient of the two, rounded once, and that is the double that was written (`reread_ofDecimal`).
-/

namespace RuleWatch.Json

variable {d : Double} {digits : List Char} {point : Int}

namespace Numeral

/-! ## Heads -/

theorem readFraction_eq {head : Head} {cs : List Char}
    (h : cs.foldl append head.digits ≤ Text.maxUInt64) :
    readFraction head cs = ⟨cs.foldl append head.digits, head.exp - cs.length⟩ := by
  induction cs generalizing head with
  | nil => simp [readFraction]
  | cons c cs ih =>
    have hfits : append head.digits c ≤ Text.maxUInt64 := (le_foldl _ cs).trans h
    have hexp : head.exp - 1 - cs.length = head.exp - (c :: cs).length := by
      rw [List.length_cons]
      omega
    rw [readFraction, if_neg (by omega), ih h, hexp]
    rfl

/-- Digits that are not too many are all read, before and after the point. -/
theorem head_eq {n : Numeral} {value : Nat} {exp : Int}
    (hvalue : Text.digitsValue (n.whole ++ n.fraction.getD []) = value)
    (hexp : -((n.fraction.getD []).length : Int) = exp) (h : value ≤ Text.maxUInt64) :
    n.head = ⟨value, exp⟩ := by
  have hsplit : (n.fraction.getD []).foldl append (n.whole.foldl append 0) = value :=
    List.foldl_append.symm.trans hvalue
  have hwhole := (le_foldl (n.whole.foldl append 0) (n.fraction.getD [])).trans (hsplit.trans_le h)
  rw [head, readWhole_eq hwhole, readFraction_eq (hsplit.trans_le h), hsplit, Int.zero_sub, hexp]

/-- A point within the digits or in front of them. -/
theorem head_positional_of_lt (hpoint : point < digits.length)
    (h : Text.digitsValue digits ≤ Text.maxUInt64) :
    (positional digits point).head = ⟨Text.digitsValue digits, point - digits.length⟩ := by
  unfold positional
  split
  next hfront =>
    refine head_eq (Text.digitsValue_zeros_append ((-point).toNat + 1) digits) ?_ h
    simp only [Option.getD_some, List.length_append, List.length_replicate]
    omega
  next hwithin =>
    have hrest : (digits.drop point.toNat).isEmpty = false := by
      simpa using (by omega : point.toNat < digits.length)
    have hfill : point.toNat - digits.length = 0 := by omega
    refine head_eq ?_ ?_ h
    · simp [hrest, hfill]
    · simp [hrest]
      omega

/-- A point behind the digits. -/
theorem head_positional_of_le {k : Nat} (hdigits : digits ≠ []) (hpoint : point = digits.length + k)
    (h : Text.digitsValue digits * 10 ^ (k + 1) ≤ Text.maxUInt64) :
    (positional digits point).head = ⟨Text.digitsValue digits * 10 ^ (k + 1), -1⟩ := by
  have hlength := List.length_pos_of_ne_nil hdigits
  have hback : point.toNat = digits.length + k := by omega
  have htake : digits.take (digits.length + k) = digits :=
    List.take_of_length_le (Nat.le_add_right ..)
  have hzeros := Text.digitsValue_append_zeros digits (k + 1)
  rw [List.replicate_succ', ← List.append_assoc] at hzeros
  unfold positional
  rw [if_neg (by omega), hback]
  refine head_eq ?_ ?_ h
  · simpa [htake] using hzeros
  · simp

/-- A point after the first digit, and an exponent that takes it to the front. -/
theorem magnitude?_scientific (hdigits : digits ≠ []) (hpoint : point ≤ 0)
    (hsmall : -22 ≤ point - digits.length) (h : Text.digitsValue digits ≤ Text.maxUInt64) :
    (scientific digits point).magnitude? =
      Head.magnitude? ⟨Text.digitsValue digits, point - digits.length⟩ := by
  obtain ⟨first, rest, rfl⟩ := List.exists_cons_of_ne_nil hdigits
  have hfraction : (scientific (first :: rest) point).fraction.getD [] = rest := by
    cases rest <;> rfl
  have hhead : (scientific (first :: rest) point).head =
      ⟨Text.digitsValue (first :: rest), -rest.length⟩ := by
    refine head_eq ?_ ?_ h
    · rw [hfraction]
      rfl
    · rw [hfraction]
  have hexp : (scientific (first :: rest) point).exp =
      some (true, Nat.toDigits 10 (point - 1).natAbs) := by
    simp [scientific]
    omega
  rw [List.length_cons] at hsmall ⊢
  rw [magnitude?, hexp, hhead]
  dsimp only
  rw [digitsValue_toDigits, if_neg (by unfold maxExponent; omega), if_pos rfl]
  congr 2
  omega

/-! ## Magnitudes -/

/-- Digits that are a double are divided by a power of ten that is one. -/
theorem Head.magnitude?_eq {digits k : Nat} (hdigits : digits < 2 ^ 53) (hk : 0 < k)
    (hle : k ≤ 22) :
    Head.magnitude? ⟨digits, -k⟩ = some (Double.ofRatio false digits (10 ^ k)) := by
  have hneg : -(k : Int) < 0 := by omega
  have hpower : k ≤ maxPower := by
    unfold maxPower
    omega
  unfold Head.magnitude?
  dsimp only
  rw [if_pos hneg, Int.natAbs_neg, Int.natAbs_natCast, divide, if_pos hpower]
  exact congrArg some (Double.divMagnitude_eq (Double.magnitude_ofInt hdigits)
    (Double.magnitude_power hle) (by positivity))

/-- What says the same as a decimal that reads back as a double is read as the double. -/
theorem Head.magnitude?_of_reads {s : Double.Shortest} {digits : Nat} {exp : Int}
    (hfinite : d.isFinite) (hzero : d.isZero = false)
    (hreads : Double.ofDecimal false s.digits s.exp = d) (hdigits : digits < 2 ^ 53)
    (hexp : exp < 0) (hle : -22 ≤ exp) (hvalue : digits * (10 : ℚ) ^ exp = s.value) :
    Head.magnitude? ⟨digits, exp⟩ = some d := by
  obtain ⟨k, rfl⟩ := Int.exists_eq_neg_ofNat hexp.le
  rw [Head.magnitude?_eq hdigits (by omega) (by omega)]
  subst hreads
  rw [Double.ofDecimal_of_isFinite hfinite hzero]
  refine congrArg some (Double.ofRatio_congr false (by positivity) (by positivity) ?_)
  rw [s.cast_value, ← hvalue, zpow_neg, zpow_natCast, div_eq_mul_inv, Nat.cast_pow,
    Nat.cast_ofNat]

theorem magnitude?_positional (digits : List Char) (point : Int) :
    (positional digits point).magnitude? = (positional digits point).head.magnitude? := by
  have hexp : (positional digits point).exp = none := by
    unfold positional
    split <;> rfl
  rw [magnitude?, hexp]

/-- A short decimal has no point far behind its digits. -/
theorem point_le_of_isShort {s : Double.Shortest} (h : s.IsShort d) (hs : s.digits ≠ 0) :
    s.exp + (Nat.toDigits 10 s.digits).length ≤ 16 := by
  by_contra hgreat
  have hlength : 0 < (Nat.toDigits 10 s.digits).length := Nat.length_toDigits_pos
  have hpower : (10 : ℚ) ^ ((Nat.toDigits 10 s.digits).length - 1) ≤ s.digits := by
    exact_mod_cast pow_length_toDigits_le hs
  have hvalue := h.value
  have hscaled : (10 : ℚ) ^ (16 : Int) ≤ s.value :=
    calc (10 : ℚ) ^ (16 : Int)
        ≤ 10 ^ (((Nat.toDigits 10 s.digits).length - 1 : Nat) + s.exp) :=
          zpow_le_zpow_right₀ (by norm_num) (by omega)
      _ = 10 ^ ((Nat.toDigits 10 s.digits).length - 1) * 10 ^ s.exp := by
          rw [zpow_add₀ (by norm_num), zpow_natCast]
      _ ≤ s.value := mul_le_mul_of_nonneg_right hpower (by positivity)
  norm_num at hscaled hvalue
  linarith

/-- Zeros that are put behind the digits, one of them behind the point, make no difference. -/
theorem magnitude?_positional_of_le {s : Double.Shortest} {k : Nat} (hfinite : d.isFinite)
    (hzero : d.isZero = false) (h : s.IsShort d) (hexp : s.exp = k) :
    (positional (Nat.toDigits 10 s.digits)
      (s.exp + (Nat.toDigits 10 s.digits).length)).magnitude? = some d := by
  have hread := digitsValue_toDigits s.digits
  have hsmall : s.digits * 10 ^ k ≤ 10 ^ 14 + 2 := by
    have hvalue := h.value
    unfold Double.Shortest.value at hvalue
    rw [hexp, zpow_natCast] at hvalue
    exact_mod_cast hvalue
  have hmore : s.digits * 10 ^ (k + 1) < 2 ^ 53 := by
    rw [Nat.pow_succ, ← Nat.mul_assoc]
    omega
  have hword : s.digits * 10 ^ (k + 1) ≤ Text.maxUInt64 := hmore.le.trans (by decide)
  rw [magnitude?_positional, head_positional_of_le (k := k) Nat.toDigits_ne_nil (by omega)
    (by rwa [hread]), hread]
  refine Head.magnitude?_of_reads hfinite hzero h.reads hmore (by decide) (by decide) ?_
  rw [Double.Shortest.value, hexp, zpow_natCast, zpow_neg_one, Nat.cast_mul, Nat.cast_pow,
    Nat.cast_ofNat, pow_succ]
  field_simp

/-- A double whose shortest decimal is short is written as a numeral that it is the value of. -/
theorem magnitude?_ofMagnitude (hfinite : d.isFinite) (hzero : d.isZero = false)
    (hshort : d.shortest.IsShort d) : (ofMagnitude d).magnitude? = some d := by
  have hpoint := point_le_of_isShort hshort (Double.digits_shortest_ne_zero hzero)
  unfold ofMagnitude
  generalize d.shortest = s at hshort hpoint ⊢
  have hread := digitsValue_toDigits s.digits
  have hne : Nat.toDigits 10 s.digits ≠ [] := Nat.toDigits_ne_nil
  have hlength := List.length_pos_of_ne_nil hne
  have hfew := hshort.digits
  have hfine := hshort.exp
  have hword : Text.digitsValue (Nat.toDigits 10 s.digits) ≤ Text.maxUInt64 := by
    unfold Text.maxUInt64
    omega
  -- The digits are the head, unless zeros have to be put behind them.
  have hplain (hneg : s.exp < 0) : Head.magnitude? ⟨s.digits, s.exp⟩ = some d :=
    Head.magnitude?_of_reads hfinite hzero hshort.reads (by omega) hneg hfine rfl
  dsimp only
  split
  next =>
    rcases lt_or_ge s.exp 0 with hneg | hbehind
    · rw [magnitude?_positional, head_positional_of_lt (by omega) hword, hread,
        add_sub_cancel_right, hplain hneg]
    · obtain ⟨k, hk⟩ := Int.eq_ofNat_of_zero_le hbehind
      exact magnitude?_positional_of_le hfinite hzero hshort hk
  next hfar =>
    rw [magnitude?_scientific hne (by omega) (by omega) hword, hread, add_sub_cancel_right,
      hplain (by omega)]

end Numeral

/-! ## Texts -/

/-- A double that its numeral has as its value is read again of its text, with either sign. -/
theorem reread_ofMagnitude {m : Nat} (negative : Bool) (hm : m < 2047 * 2 ^ 52) (hpos : m ≠ 0)
    (h : (Numeral.ofMagnitude (.ofMagnitude false m)).magnitude? = some (.ofMagnitude false m)) :
    (Double.ofMagnitude negative m).reread = .ofMagnitude negative m := by
  have hpattern : m < 2 ^ 63 := by omega
  have hzero (sign : Bool) : (Double.ofMagnitude sign m).isZero = false := by
    rw [Double.isZero_ofMagnitude sign hpattern]
    simpa using hpos
  have htext : renderDouble (.ofMagnitude negative m) =
      (if negative then ['-'] else []) ++ (Numeral.ofMagnitude (.ofMagnitude false m)).text := by
    rw [Numeral.text_ofMagnitude, renderDouble, Double.isFinite_ofMagnitude negative hm,
      if_neg (by decide)]
    dsimp only
    rw [hzero, if_neg (by decide), Double.isNegative_ofMagnitude negative hpattern, Nat.pow_eq,
      Double.mod_bits_ofMagnitude negative hpattern]
  have hneg : (if negative then (Double.ofMagnitude false m).neg else .ofMagnitude false m) =
      Double.ofMagnitude negative m := by
    rw [Double.neg_ofMagnitude false hpattern]
    cases negative <;> rfl
  obtain ⟨hsign, hparts⟩ := Numeral.parts_ofMagnitude (.ofMagnitude false m)
  have hwell := Numeral.isWellFormed_ofMagnitude (hzero false)
  have hspelled := hwell.isSpelled hsign hparts h negative
  rw [hneg, ← htext] at hspelled
  exact reread_eq_of_isSpelled hspelled

/-- A double that is nearest to a decimal of few digits, none of them far behind the point, is read
again of its text. -/
theorem reread_ofDecimal (negative : Bool) {digits k : Nat} (hdigits : digits ≤ 10 ^ 14)
    (hk : k ≤ 22) :
    (Double.ofDecimal negative digits (-k)).reread = Double.ofDecimal negative digits (-k) := by
  rw [Double.ofDecimal_neg negative hdigits hk]
  obtain ⟨m, hm, hratio⟩ := Double.exists_ofRatio digits (10 ^ k)
  rcases Nat.eq_zero_or_pos digits with rfl | hpos
  · have hzero : ∀ negative, (Double.ofMagnitude negative 0).reread =
        Double.ofMagnitude negative 0 := by decide +kernel
    rw [Double.ofRatio]
    exact hzero negative
  · have hfinite := Double.isFinite_ofRatio_of_short hdigits k
    have hshort := Double.isShort_ofRatio hpos.ne' hdigits hk
    have hnonzero := Double.isZero_ofRatio_of_short hpos.ne' hdigits hk
    rw [hratio] at hfinite hnonzero hshort ⊢
    have hlt := Double.toNat_bits_mod_lt hfinite
    rw [Double.mod_bits_ofMagnitude false hm] at hlt
    refine reread_ofMagnitude negative hlt ?_
      (Numeral.magnitude?_ofMagnitude hfinite hnonzero hshort)
    rw [Double.isZero_ofMagnitude false hm] at hnonzero
    simpa using hnonzero

end RuleWatch.Json
