import RuleWatch.Json.Render
import RuleWatch.Proofs.Double.Error
import RuleWatch.Proofs.Json.Numeral
import RuleWatch.Proofs.Json.Words

/-!
# How numbers are spelled

An integer of 64 bits is written as a numeral that has its value. A finite double is written as a
numeral with a fraction or an exponent, which is a double again (`exists_isSpelled_double`), though
not always the same one. It is never out of range: the digits are those of the shortest decimal, and
what is lost on the way from there to a double is too little.
-/

namespace RuleWatch.Json

open Numeral (IsDigits IsWellFormed)

variable {d : Double} {cs ds : List Char} {k : Nat}

/-- The characters are the spelling of a number. -/
def IsSpelled (value : Number) (cs : List Char) : Prop :=
  ∃ n : Numeral, n.text = cs ∧ n.IsWellFormed ∧ n.value? = some value

/-! ## Digits -/

theorem isDigits_toDigits (k : Nat) : IsDigits (Nat.toDigits 10 k) :=
  ⟨Nat.toDigits_ne_nil, fun _ hc ↦ Nat.isDigit_of_mem_toDigits (by decide) (by decide) hc⟩

theorem digitsValue_toDigits (k : Nat) : Text.digitsValue (Nat.toDigits 10 k) = k := by
  rw [Text.digitsValue_eq_ofDigitChars, Nat.ofDigitChars_ten_toDigits]

/-- The digits of a number that is not zero do not begin with a zero. -/
theorem head?_toDigits_ne (hk : k ≠ 0) : (Nat.toDigits 10 k).head? ≠ some '0' := by
  induction k using Nat.strongRecOn with
  | ind k ih =>
    rw [Nat.toDigits_eq_if (by decide)]
    split
    next hsmall =>
      have hdigit : ∀ k < 10, k ≠ 0 → [Nat.digitChar k].head? ≠ some '0' := by decide
      exact hdigit k hsmall hk
    next hgreat =>
      rw [List.head?_append_of_ne_nil _ Nat.toDigits_ne_nil]
      exact ih (k / 10) (by omega) (by omega)

/-- There are no more digits than the number has powers of ten. -/
theorem pow_length_toDigits_le (hk : k ≠ 0) : 10 ^ ((Nat.toDigits 10 k).length - 1) ≤ k := by
  rcases Nat.eq_zero_or_pos ((Nat.toDigits 10 k).length - 1) with hnone | hpos
  · rw [hnone]
    omega
  · have hlength := (Nat.length_toDigits_le_iff (n := k) (b := 10) (by decide) hpos).not
    omega

/-! ## Integers -/

theorem toList_toString (n : Int) :
    (toString n).toList = (if n < 0 then ['-'] else []) ++ Nat.toDigits 10 n.natAbs := by
  cases n with
  | ofNat k =>
    have hshown : (toString (Int.ofNat k)).toList = Nat.toDigits 10 k := String.toList_ofList
    have hsign : ¬ Int.ofNat k < 0 := Int.not_lt.mpr (Int.natCast_nonneg k)
    rw [hshown, if_neg hsign]
    rfl
  | negSucc k =>
    change ("-" ++ String.ofList (Nat.toDigits 10 (k + 1))).toList = _
    simp

theorem isSpelled_int {n : Int} (hlow : Text.minInt64 ≤ n) (hhigh : n ≤ Text.maxUInt64) :
    IsSpelled (.int n) (toString n).toList := by
  refine ⟨⟨n < 0, Nat.toDigits 10 n.natAbs, none, none⟩, ?_,
    ⟨isDigits_toDigits _, ?_, nofun, nofun⟩, ?_⟩
  · rw [toList_toString]
    simp [Numeral.text, Numeral.fractionText, Numeral.expText]
  · intro hzero
    have hn : n.natAbs = 0 := by
      by_contra hne
      exact head?_toDigits_ne hne hzero
    change Nat.toDigits 10 n.natAbs = _
    rw [hn]
    rfl
  · have hint : Numeral.int? ⟨n < 0, Nat.toDigits 10 n.natAbs, none, none⟩ = some n := by
      simp only [Numeral.int?, digitsValue_toDigits]
      grind
    simp [Numeral.value?, hint]

/-! ## Heads -/

namespace Numeral

theorem append_lt {c : Char} (hc : c.isDigit) (k : Nat) : append k c < (k + 1) * 10 := by
  have hdigit := (Text.toNat_of_isDigit hc).2
  have hzero : '0'.toNat = 48 := rfl
  unfold append
  omega

theorem foldl_append_lt (hcs : ∀ c ∈ cs, c.isDigit) (k : Nat) :
    cs.foldl append k < (k + 1) * 10 ^ cs.length := by
  induction cs generalizing k with
  | nil => simp
  | cons c cs ih =>
    obtain ⟨hc, hcs⟩ := List.forall_mem_cons.mp hcs
    refine (ih hcs (append k c)).trans_le ?_
    rw [List.length_cons, Nat.pow_succ', ← Nat.mul_assoc]
    exact Nat.mul_le_mul_right _ (append_lt hc k)

theorem mul_pow_le_foldl (k : Nat) (cs : List Char) : k * 10 ^ cs.length ≤ cs.foldl append k := by
  induction cs generalizing k with
  | nil => simp
  | cons c cs ih =>
    refine le_trans ?_ (ih (append k c))
    rw [List.length_cons, Nat.pow_succ', ← Nat.mul_assoc]
    exact Nat.mul_le_mul_right _ (Nat.le_add_right ..)

theorem le_foldl (k : Nat) (cs : List Char) : k ≤ cs.foldl append k :=
  (Nat.le_mul_of_pos_right k (Nat.pow_pos (by decide))).trans (mul_pow_le_foldl k cs)

/-- Digits that are not too many are all read. -/
theorem readWhole_eq (h : cs.foldl append k ≤ Text.maxUInt64) :
    readWhole false ⟨k, 0⟩ cs = ⟨cs.foldl append k, 0⟩ := by
  induction cs generalizing k with
  | nil => rfl
  | cons c cs ih =>
    have hfits : append k c ≤ Text.maxUInt64 := (le_foldl (append k c) cs).trans h
    rw [readWhole, if_neg (by simpa using hfits)]
    exact ih h

theorem exp_readFraction_le (head : Head) (cs : List Char) :
    (readFraction head cs).exp ≤ head.exp := by
  induction cs generalizing head with
  | nil => exact le_rfl
  | cons c cs ih =>
    unfold readFraction
    split
    · exact le_rfl
    · exact (ih _).trans (by simp)

theorem le_exp_readFraction (head : Head) (cs : List Char) :
    head.exp ≤ (readFraction head cs).exp + cs.length := by
  induction cs generalizing head with
  | nil => simp [readFraction]
  | cons c cs ih =>
    unfold readFraction
    split
    · omega
    · have hrest := ih ⟨append head.digits c, head.exp - 1⟩
      simp only [List.length_cons] at hrest ⊢
      omega

/-- What is read of a fraction is no more than what it says. -/
theorem digits_readFraction_mul_le (head : Head) (cs : List Char) :
    (readFraction head cs).digits * 10 ^ ((readFraction head cs).exp + cs.length - head.exp).toNat ≤
      cs.foldl append head.digits := by
  induction cs generalizing head with
  | nil => simp [readFraction]
  | cons c cs ih =>
    unfold readFraction
    split
    · have hall : (head.exp + (c :: cs).length - head.exp).toNat = (c :: cs).length := by omega
      rw [hall]
      exact mul_pow_le_foldl head.digits (c :: cs)
    · have hrest := ih ⟨append head.digits c, head.exp - 1⟩
      have hexp (x : Int) : x + (c :: cs).length - head.exp =
          x + cs.length - (head.exp - 1) := by
        rw [List.length_cons]
        omega
      rw [hexp]
      exact hrest

/-! ## Magnitudes -/

variable {head : Head} {n : Numeral}

theorem Head.isSome_magnitude?_of_neg (h : head.exp < 0) : head.magnitude?.isSome := by
  simp [Head.magnitude?, h]

/-- Digits with a power of ten that leave room for the errors are in range. -/
theorem Head.isSome_magnitude? {x : ℚ} (hdigits : head.digits ≤ 2 ^ 64)
    (h : head.digits * 10 ^ head.exp ≤ x)
    (hx : Double.withError (Double.withError x) ≤ Double.maxFinite) : head.magnitude?.isSome := by
  unfold Head.magnitude?
  dsimp only
  split_ifs with hneg hle hzero
  · rfl
  · have hfinite : ((Double.ofInt head.digits).mulMagnitude (power head.exp.toNat)).isFinite := by
      refine Double.isFinite_mulMagnitude (le_trans ?_ hx)
      have hexp : (10 : ℚ) ^ head.exp = 10 ^ head.exp.toNat := by
        rw [← zpow_natCast, Int.toNat_of_nonneg (Int.not_lt.mp hneg)]
      rw [hexp] at h
      unfold maxPower at hle
      calc (Double.ofInt head.digits).magnitude * (power head.exp.toNat).magnitude
          ≤ Double.withError head.digits * Double.withError (10 ^ head.exp.toNat) :=
            mul_le_mul (Double.magnitude_ofInt_le hdigits)
              (Double.magnitude_power_le (by omega)) (Double.magnitude_nonneg _)
              ((Nat.cast_nonneg _).trans (Double.le_withError (Nat.cast_nonneg _)))
        _ = Double.withError (Double.withError (head.digits * 10 ^ head.exp.toNat)) := by
            unfold Double.withError
            ring
        _ ≤ Double.withError (Double.withError x) :=
            Double.withError_mono (Double.withError_mono h)
    simp [finite?, hfinite]
  · rfl
  · have hone : (1 : ℚ) ≤ head.digits := by
      have hne : head.digits ≠ 0 := fun heq ↦ hzero (heq ▸ by decide)
      exact_mod_cast Nat.pos_of_ne_zero hne
    have hpower : (10 : ℚ) ^ head.exp ≤ x :=
      (le_mul_of_one_le_left (zpow_nonneg (by norm_num) _) hone).trans h
    exact absurd (Double.exp_le_of_zpow_le hpower hx) (by unfold maxPower at hle; omega)

/-! ## Doubles -/

/-- The numeral that has a point after so many digits. -/
def positional (digits : List Char) (point : Int) : Numeral :=
  if point ≤ 0 then ⟨false, ['0'], some (List.replicate (-point).toNat '0' ++ digits), none⟩
  else
    let rest := digits.drop point.toNat
    ⟨false, digits.take point.toNat ++ List.replicate (point.toNat - digits.length) '0',
      some (if rest.isEmpty then ['0'] else rest), none⟩

/-- The numeral that has a point after its first digit and the exponent that goes with it. -/
def scientific (digits : List Char) (point : Int) : Numeral :=
  let rest := digits.drop 1
  ⟨false, digits.take 1, if rest.isEmpty then none else some rest,
    some (point - 1 < 0, Nat.toDigits 10 (point - 1).natAbs)⟩

/-- The numeral that a positive finite double is written as. -/
def ofMagnitude (d : Double) : Numeral :=
  let digits := Nat.toDigits 10 d.shortest.digits
  let point := d.shortest.exp + digits.length
  if -5 < point ∧ point ≤ 16 then positional digits point else scientific digits point

theorem text_positional (digits : List Char) (point : Int) :
    (positional digits point).text = renderPositional digits point := by
  unfold positional renderPositional text fractionText expText
  split <;> simp

theorem text_scientific (digits : List Char) (point : Int) :
    (scientific digits point).text =
      digits.take 1 ++ (if (digits.drop 1).isEmpty then [] else '.' :: digits.drop 1) ++
        'e' :: (toString (point - 1)).toList := by
  unfold scientific text fractionText expText
  rw [toList_toString]
  cases hrest : digits.drop 1 <;> simp

theorem text_ofMagnitude (d : Double) : (ofMagnitude d).text = renderMagnitude d := by
  unfold ofMagnitude renderMagnitude
  have hdigits : (toString d.shortest.digits).toList = Nat.toDigits 10 d.shortest.digits :=
    String.toList_ofList
  dsimp only
  rw [hdigits]
  split
  · exact text_positional ..
  · exact text_scientific ..

variable {digits : List Char} {point : Int}

theorem isDigits_zero : IsDigits ['0'] :=
  ⟨nofun, by simp⟩

theorem isWellFormed_positional (hdigits : IsDigits digits) (hhead : digits.head? ≠ some '0')
    (point : Int) : (positional digits point).IsWellFormed := by
  obtain ⟨hne, hall⟩ := hdigits
  unfold positional
  split
  next =>
    refine ⟨isDigits_zero, fun _ ↦ rfl, ?_, nofun⟩
    rintro _ ⟨rfl⟩
    refine ⟨by simp [hne], fun c hc ↦ ?_⟩
    rcases List.mem_append.mp hc with hc | hc
    · exact List.eq_of_mem_replicate hc ▸ rfl
    · exact hall c hc
  next hpoint =>
    obtain ⟨k, hk⟩ : ∃ k, point.toNat = k + 1 := ⟨point.toNat - 1, by omega⟩
    obtain ⟨first, rest, rfl⟩ := List.exists_cons_of_ne_nil hne
    refine ⟨⟨by simp [hk], fun c hc ↦ ?_⟩, fun hzero ↦ ?_, ?_, nofun⟩
    · rcases List.mem_append.mp hc with hc | hc
      · exact hall c (List.mem_of_mem_take hc)
      · exact List.eq_of_mem_replicate hc ▸ rfl
    · rw [hk] at hzero
      exact absurd hzero hhead
    · rintro _ ⟨rfl⟩
      split
      next => exact isDigits_zero
      next hrest => exact ⟨by simpa using hrest, fun c hc ↦ hall c (List.mem_of_mem_drop hc)⟩

theorem isWellFormed_scientific (hdigits : IsDigits digits) (hhead : digits.head? ≠ some '0')
    (point : Int) : (scientific digits point).IsWellFormed := by
  obtain ⟨hne, hall⟩ := hdigits
  obtain ⟨first, rest, rfl⟩ := List.exists_cons_of_ne_nil hne
  obtain ⟨hfirst, hrest⟩ := List.forall_mem_cons.mp hall
  refine ⟨⟨nofun, by simpa [scientific] using hfirst⟩, fun hzero ↦ absurd hzero hhead,
    fun ds hds ↦ ?_, ?_⟩
  · change (if rest.isEmpty then none else some rest) = some ds at hds
    split at hds
    next => contradiction
    next hempty =>
      obtain rfl := Option.some.inj hds
      exact ⟨by simpa using hempty, hrest⟩
  · rintro _ ⟨rfl⟩
    exact isDigits_toDigits _

theorem isWellFormed_ofMagnitude (hd : d.isZero = false) : (ofMagnitude d).IsWellFormed := by
  have hdigits := isDigits_toDigits d.shortest.digits
  have hhead := head?_toDigits_ne (Double.digits_shortest_ne_zero hd)
  unfold ofMagnitude
  dsimp only
  split
  · exact isWellFormed_positional hdigits hhead _
  · exact isWellFormed_scientific hdigits hhead _

/-! ## Values of doubles -/

/-- A numeral with a fraction behind a short whole part is in range. -/
theorem isSome_magnitude?_of_fraction (h : n.IsWellFormed) (hwhole : n.whole.length ≤ 18)
    (hfraction : n.fraction.isSome) (hexp : n.exp = none) : n.magnitude?.isSome := by
  obtain ⟨fraction, hsome⟩ := Option.isSome_iff_exists.mp hfraction
  obtain ⟨hne, hdigits⟩ := h.fraction fraction hsome
  obtain ⟨c, cs, rfl⟩ := List.exists_cons_of_ne_nil hne
  have hpower : 10 ^ n.whole.length ≤ 10 ^ 18 := Nat.pow_le_pow_right (by decide) hwhole
  have hlt := foldl_append_lt h.whole.2 0
  have hread : readWhole false ⟨0, 0⟩ n.whole = ⟨n.whole.foldl append 0, 0⟩ :=
    readWhole_eq (by unfold Text.maxUInt64; omega)
  have hfits : ¬ Text.maxUInt64 < append (n.whole.foldl append 0) c := by
    have happend := append_lt (hdigits c (.head _)) (n.whole.foldl append 0)
    unfold Text.maxUInt64
    omega
  have hhead : n.head.exp < 0 := by
    rw [head, hread, hsome, Option.getD_some, readFraction, if_neg hfits]
    exact Int.lt_of_le_of_lt (exp_readFraction_le ..) (by simp)
  rw [magnitude?, hexp]
  exact Head.isSome_magnitude?_of_neg hhead

theorem head_scientific (first : Char) (rest : List Char) (point : Int) (hfirst : first.isDigit) :
    (scientific (first :: rest) point).head = readFraction ⟨append 0 first, 0⟩ rest := by
  have hdigit := append_lt hfirst 0
  have hread : readWhole false ⟨0, 0⟩ [first] = ⟨append 0 first, 0⟩ :=
    readWhole_eq (by unfold Text.maxUInt64; exact hdigit.le.trans (by decide))
  have hrest : (if rest.isEmpty then none else some rest).getD [] = rest := by
    cases rest <;> rfl
  change readFraction (readWhole false ⟨0, 0⟩ [first])
    ((if rest.isEmpty then none else some rest).getD []) = _
  rw [hread, hrest]

/-- A numeral with an exponent is in range if what it says leaves room for the errors. -/
theorem isSome_magnitude?_scientific {x : ℚ} (hdigits : IsDigits digits)
    (hpower : 10 ^ (digits.length - 1) ≤ Text.digitsValue digits)
    (h : Text.digitsValue digits * (10 : ℚ) ^ (point - digits.length) ≤ x)
    (hx : Double.withError (Double.withError x) ≤ Double.maxFinite) :
    (scientific digits point).magnitude?.isSome := by
  obtain ⟨hne, hall⟩ := hdigits
  obtain ⟨first, rest, rfl⟩ := List.exists_cons_of_ne_nil hne
  have hhead := head_scientific first rest point (hall first (.head _))
  have hle := exp_readFraction_le ⟨append 0 first, 0⟩ rest
  have hge := le_exp_readFraction ⟨append 0 first, 0⟩ rest
  have hmul := digits_readFraction_mul_le ⟨append 0 first, 0⟩ rest
  have hword := digits_head_le (scientific (first :: rest) point)
  rw [hhead] at hword
  change _ ≤ Text.digitsValue (first :: rest) at hmul
  have hexp : (scientific (first :: rest) point).exp =
      some (decide (point - 1 < 0), Nat.toDigits 10 (point - 1).natAbs) := rfl
  unfold magnitude?
  rw [hexp, hhead]
  dsimp only at hle hge hmul ⊢
  rw [digitsValue_toDigits]
  generalize readFraction ⟨append 0 first, 0⟩ rest = head at hle hge hmul hword ⊢
  rw [List.length_cons] at hpower h
  generalize Text.digitsValue (first :: rest) = value at hpower h hmul
  by_cases hnegative : point - 1 < 0
  · rw [decide_eq_true hnegative]
    by_cases hgreat : maxExponent < (point - 1).natAbs
    · simp [hgreat]
    · rw [if_neg hgreat]
      refine Head.isSome_magnitude?_of_neg ?_
      change head.exp - _ < 0
      omega
  · rw [decide_eq_false hnegative]
    have hshift (e : Int) : (10 : ℚ) ^ (e + rest.length) * 10 ^ (point - (rest.length + 1 : Nat)) =
        10 ^ (e + (point - 1).natAbs) := by
      rw [← zpow_add₀ (by norm_num)]
      congr 1
      omega
    have hscale : (0 : ℚ) ≤ 10 ^ (point - (rest.length + 1 : Nat)) := by positivity
    have hlimit : ((point - 1).natAbs : Int) ≤ 308 := by
      refine Double.exp_le_of_zpow_le (le_trans ?_ h) hx
      rw [← Int.zero_add (point - 1).natAbs, ← hshift]
      refine mul_le_mul_of_nonneg_right ?_ hscale
      rw [Int.zero_add, zpow_natCast]
      exact_mod_cast hpower
    rw [if_neg (by unfold maxExponent; omega)]
    refine Head.isSome_magnitude? (hword.trans (by decide)) (le_trans ?_ h) hx
    change (head.digits : ℚ) * 10 ^ (head.exp + (point - 1).natAbs) ≤ _
    rw [← hshift, ← mul_assoc]
    refine mul_le_mul_of_nonneg_right ?_ hscale
    have hexact : ((head.exp + rest.length - 0).toNat : Int) = head.exp + rest.length := by omega
    rw [← hexact, zpow_natCast]
    exact_mod_cast hmul

/-- What a positive finite double is written as is in range. -/
theorem isSome_magnitude?_ofMagnitude (hfinite : d.isFinite) (hd : d.isZero = false)
    (hsign : d.isNegative = false) : (ofMagnitude d).magnitude?.isSome := by
  have hnonzero := Double.digits_shortest_ne_zero hd
  have hdigits := isDigits_toDigits d.shortest.digits
  by_cases hgreat : d.magnitude ≤ (2 ^ 53 - 5) * 2 ^ Double.maxExponent
  · have hbound := Double.shortest_le_maxFinite hfinite hd hgreat
    unfold ofMagnitude
    dsimp only
    split
    next hpoint =>
      have hwhole := isWellFormed_positional hdigits (head?_toDigits_ne hnonzero)
        (d.shortest.exp + (Nat.toDigits 10 d.shortest.digits).length)
      refine isSome_magnitude?_of_fraction hwhole ?_ ?_ ?_
      all_goals
        unfold positional
        split <;> simp
      omega
    next =>
      refine isSome_magnitude?_scientific hdigits ?_ ?_ hbound
      · rw [digitsValue_toDigits]
        exact pow_length_toDigits_le hnonzero
      · rw [digitsValue_toDigits, add_sub_cancel_right]
        exact le_rfl
  · obtain ⟨k, hk, rfl⟩ := Double.exists_of_lt_magnitude hfinite hsign (lt_of_not_ge hgreat)
    have hgreatest : ∀ k < 4,
        (ofMagnitude (.ofMagnitude false (2047 * 2 ^ 52 - 1 - k))).magnitude?.isSome := by
      decide +kernel
    exact hgreatest k hk

theorem parts_ofMagnitude (d : Double) : (ofMagnitude d).negative = false ∧
    ((ofMagnitude d).fraction.isSome || (ofMagnitude d).exp.isSome) = true := by
  unfold ofMagnitude
  dsimp only
  split
  · unfold positional
    split <;> simp
  · simp [scientific]

/-- With a fraction or an exponent a numeral is a double, with either sign. -/
theorem IsWellFormed.isSpelled {x : Double} (h : n.IsWellFormed) (hpositive : n.negative = false)
    (hparts : n.fraction.isSome || n.exp.isSome) (hx : n.magnitude? = some x) (negative : Bool) :
    IsSpelled (.double (if negative then x.neg else x))
      ((if negative then ['-'] else []) ++ n.text) := by
  have hint : Numeral.int? { n with negative := negative } = none := by simp [int?, hparts]
  have hmagnitude : Numeral.magnitude? { n with negative := negative } = some x := hx
  refine ⟨{ n with negative := negative }, ?_, ⟨h.whole, h.plain, h.fraction, h.exp⟩, ?_⟩
  · simp [text, hpositive]
  · simp [value?, hint, hmagnitude]

theorem IsWellFormed.exists_isSpelled (h : n.IsWellFormed) (hpositive : n.negative = false)
    (hparts : n.fraction.isSome || n.exp.isSome) (hrange : n.magnitude?.isSome) (negative : Bool) :
    ∃ x, IsSpelled (.double x) ((if negative then ['-'] else []) ++ n.text) := by
  obtain ⟨x, hx⟩ := Option.isSome_iff_exists.mp hrange
  exact ⟨_, h.isSpelled hpositive hparts hx negative⟩

end Numeral

/-- A finite double is written as a numeral that is a double again. -/
theorem exists_isSpelled_double (hd : d.isFinite) :
    ∃ x, IsSpelled (.double x) (renderDouble d) := by
  unfold renderDouble
  rw [if_neg (by simp [hd])]
  dsimp only
  split
  next hzero =>
    have hzero : IsWellFormed ⟨false, ['0'], some ['0'], none⟩ :=
      ⟨Numeral.isDigits_zero, fun _ ↦ rfl, fun _ ↦ by rintro ⟨⟩; exact Numeral.isDigits_zero, nofun⟩
    exact hzero.exists_isSpelled rfl rfl (by decide +kernel) d.isNegative
  next hnonzero =>
    have hlt := Double.toNat_bits_mod_lt hd
    have hpattern : d.bits.toNat % 2 ^ 63 < 2 ^ 63 := Nat.mod_lt _ (by decide)
    have hzero := (Double.isZero_ofMagnitude false hpattern).trans (Bool.eq_false_iff.mpr hnonzero)
    have hsign := Double.isNegative_ofMagnitude false hpattern
    have hrange :=
      Numeral.isSome_magnitude?_ofMagnitude (Double.isFinite_ofMagnitude false hlt) hzero hsign
    obtain ⟨hpositive, hparts⟩ :=
      Numeral.parts_ofMagnitude (.ofMagnitude false (d.bits.toNat % 2 ^ 63))
    have hspelled := (Numeral.isWellFormed_ofMagnitude hzero).exists_isSpelled hpositive hparts
      hrange d.isNegative
    rwa [Numeral.text_ofMagnitude] at hspelled

end RuleWatch.Json
