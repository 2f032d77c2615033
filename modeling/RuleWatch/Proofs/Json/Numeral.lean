import RuleWatch.Json.Scan
import RuleWatch.Proofs.Text.Integer

/-!
# Numerals as texts

A numeral is well formed if it is spelled as JSON asks: with at least one digit in every part that
it has, and without zeros in front of its whole part. A scan reads such a spelling character by
character and comes out with the numeral (`OpenNumeral.exists_ofText?`). Every integer is written as
one, and so is every finite double.
-/

namespace RuleWatch.Json

variable {n : Numeral} {ds : List Char}

/-! ## Spellings -/

namespace Numeral

/-- The characters of the exponent, with its letter. -/
def expText : Option (Bool × List Char) → List Char
  | none => []
  | some (negative, ds) => 'e' :: (if negative then ['-'] else []) ++ ds

/-- The characters of the fraction, with the point. -/
def fractionText : Option (List Char) → List Char
  | none => []
  | some ds => '.' :: ds

/-- How a numeral is spelled. -/
def text (n : Numeral) : List Char :=
  (if n.negative then ['-'] else []) ++ n.whole ++ fractionText n.fraction ++ expText n.exp

/-- At least one digit, and nothing else. -/
def IsDigits (ds : List Char) : Prop :=
  ds ≠ [] ∧ ∀ c ∈ ds, c.isDigit

/-- Every part has digits, and a whole part that begins with a zero is zero. -/
structure IsWellFormed (n : Numeral) : Prop where
  whole : IsDigits n.whole
  plain : n.whole.head? = some '0' → n.whole = ['0']
  fraction : ∀ ds ∈ n.fraction, IsDigits ds
  exp : ∀ e ∈ n.exp, IsDigits e.2

end Numeral

/-! ## Scanning -/

namespace OpenNumeral

/-- The numeral that the characters begin. -/
def ofText? : List Char → Option OpenNumeral
  | [] => none
  | c :: cs => start? c >>= fun o ↦ cs.foldlM next? o

variable {negative : Bool} {whole : List Char} {fraction : Option (List Char)}
  {part : NumeralPart}

theorem foldlM_whole (hds : ∀ c ∈ ds, c.isDigit) (whole : List Char) :
    ds.foldlM next? ⟨.whole, negative, whole, none, none⟩ =
      some ⟨.whole, negative, ds.reverse ++ whole, none, none⟩ := by
  induction ds generalizing whole with
  | nil => rfl
  | cons c ds ih =>
    obtain ⟨hc, hds⟩ := List.forall_mem_cons.mp hds
    have hnext : next? ⟨.whole, negative, whole, none, none⟩ c =
        some ⟨.whole, negative, c :: whole, none, none⟩ := by simp [next?, hc]
    rw [List.foldlM_cons, hnext]
    simpa using ih hds (c :: whole)

theorem foldlM_fraction (hds : ∀ c ∈ ds, c.isDigit) (front : List Char) :
    ds.foldlM next? ⟨.fraction, negative, whole, some front, none⟩ =
      some ⟨.fraction, negative, whole, some (ds.reverse ++ front), none⟩ := by
  induction ds generalizing front with
  | nil => rfl
  | cons c ds ih =>
    obtain ⟨hc, hds⟩ := List.forall_mem_cons.mp hds
    have hnext : next? ⟨.fraction, negative, whole, some front, none⟩ c =
        some ⟨.fraction, negative, whole, some (c :: front), none⟩ := by simp [next?, hc]
    rw [List.foldlM_cons, hnext]
    simpa using ih hds (c :: front)

theorem foldlM_exp {sign : Bool} (hds : ∀ c ∈ ds, c.isDigit) (front : List Char) :
    ds.foldlM next? ⟨.exp, negative, whole, fraction, some (sign, front)⟩ =
      some ⟨.exp, negative, whole, fraction, some (sign, ds.reverse ++ front)⟩ := by
  induction ds generalizing front with
  | nil => rfl
  | cons c ds ih =>
    obtain ⟨hc, hds⟩ := List.forall_mem_cons.mp hds
    have hnext : next? ⟨.exp, negative, whole, fraction, some (sign, front)⟩ c =
        some ⟨.exp, negative, whole, fraction, some (sign, c :: front)⟩ := by simp [next?, hc]
    rw [List.foldlM_cons, hnext]
    simpa using ih hds (c :: front)

/-- The sign and the whole part. -/
theorem exists_foldlM_whole (hwhole : Numeral.IsDigits whole)
    (hplain : whole.head? = some '0' → whole = ['0']) (negative : Bool) :
    ∃ part, (part = .zero ∨ part = .whole) ∧ ∀ rest,
      ofText? ((if negative then ['-'] else []) ++ whole ++ rest) =
        rest.foldlM next? ⟨part, negative, whole.reverse, none, none⟩ := by
  obtain ⟨hne, hdigits⟩ := hwhole
  obtain ⟨c, ds, rfl⟩ := List.exists_cons_of_ne_nil hne
  obtain ⟨hc, hds⟩ := List.forall_mem_cons.mp hdigits
  by_cases hzero : c = '0'
  · subst hzero
    obtain rfl : ds = [] := by simpa using hplain rfl
    refine ⟨.zero, .inl rfl, fun rest ↦ ?_⟩
    cases negative <;> rfl
  · have hminus : c ≠ '-' := fun heq ↦ by
      subst heq
      contradiction
    refine ⟨.whole, .inr rfl, fun rest ↦ ?_⟩
    have hfold : (ds ++ rest).foldlM next? ⟨.whole, negative, [c], none, none⟩ =
        rest.foldlM next? ⟨.whole, negative, (c :: ds).reverse, none, none⟩ := by
      rw [List.foldlM_append, foldlM_whole hds]
      simp
    rw [← hfold]
    cases negative with
    | false => simp [ofText?, start?, hzero, hminus, hc]
    | true => simp [ofText?, start?, next?, hzero, hc]

/-- The fraction. -/
theorem exists_foldlM_fraction (hpart : part = .zero ∨ part = .whole)
    (hfraction : ∀ ds ∈ fraction, Numeral.IsDigits ds) :
    ∃ part', (part' = .zero ∨ part' = .whole ∨ part' = .fraction) ∧ ∀ rest,
      (Numeral.fractionText fraction ++ rest).foldlM next? ⟨part, negative, whole, none, none⟩ =
        rest.foldlM next? ⟨part', negative, whole, fraction.map List.reverse, none⟩ := by
  cases fraction with
  | none => exact ⟨part, by tauto, fun rest ↦ rfl⟩
  | some ds =>
    obtain ⟨hne, hdigits⟩ := hfraction ds rfl
    obtain ⟨c, ds, rfl⟩ := List.exists_cons_of_ne_nil hne
    obtain ⟨hc, hds⟩ := List.forall_mem_cons.mp hdigits
    refine ⟨.fraction, .inr (.inr rfl), fun rest ↦ ?_⟩
    have hpoint : next? ⟨part, negative, whole, none, none⟩ '.' =
        some ⟨.point, negative, whole, none, none⟩ := by
      rcases hpart with rfl | rfl <;> rfl
    have hfirst : next? ⟨.point, negative, whole, none, none⟩ c =
        some ⟨.fraction, negative, whole, some [c], none⟩ := by simp [next?, hc]
    rw [Numeral.fractionText, List.foldlM_append, List.foldlM_cons, hpoint, Option.bind_eq_bind,
      Option.bind_some, List.foldlM_cons, hfirst, Option.bind_eq_bind, Option.bind_some,
      foldlM_fraction hds]
    simp

/-- The exponent. -/
theorem exists_foldlM_exp {exp : Option (Bool × List Char)}
    (hpart : part = .zero ∨ part = .whole ∨ part = .fraction)
    (hexp : ∀ e ∈ exp, Numeral.IsDigits e.2) :
    ∃ part', let o : OpenNumeral := ⟨part', negative, whole, fraction,
        exp.map fun (sign, digits) ↦ (sign, digits.reverse)⟩
      o.mayEnd ∧
        (Numeral.expText exp).foldlM next? ⟨part, negative, whole, fraction, none⟩ = some o := by
  cases exp with
  | none =>
    refine ⟨part, ?_, rfl⟩
    rcases hpart with rfl | rfl | rfl <;> rfl
  | some e =>
    obtain ⟨sign, ds⟩ := e
    obtain ⟨hne, hdigits⟩ := hexp (sign, ds) rfl
    obtain ⟨c, ds, rfl⟩ := List.exists_cons_of_ne_nil hne
    obtain ⟨hc, hds⟩ := List.forall_mem_cons.mp hdigits
    refine ⟨.exp, rfl, ?_⟩
    have hmark : next? ⟨part, negative, whole, fraction, none⟩ 'e' =
        some ⟨.mark, negative, whole, fraction, none⟩ := by
      rcases hpart with rfl | rfl | rfl <;> rfl
    have hfirst : ((if sign then ['-'] else []) ++ [c]).foldlM next?
        ⟨.mark, negative, whole, fraction, none⟩ =
          some ⟨.exp, negative, whole, fraction, some (sign, [c])⟩ := by
      have hsigns : c ≠ '+' ∧ c ≠ '-' := by
        constructor <;> rintro rfl <;> contradiction
      cases sign <;> simp [next?, hc, hsigns]
    have hsplit : Numeral.expText (some (sign, c :: ds)) =
        'e' :: (((if sign then ['-'] else []) ++ [c]) ++ ds) := by simp [Numeral.expText]
    rw [hsplit, List.foldlM_cons, hmark, Option.bind_eq_bind, Option.bind_some,
      List.foldlM_append, hfirst, Option.bind_eq_bind, Option.bind_some, foldlM_exp hds]
    simp

/-- What is well formed is read from its text. -/
theorem exists_ofText? (h : n.IsWellFormed) :
    ∃ o, ofText? n.text = some o ∧ o.mayEnd ∧ o.toNumeral = n := by
  obtain ⟨negative, whole, fraction, exp⟩ := n
  obtain ⟨part, hpart, hwhole⟩ := exists_foldlM_whole h.whole h.plain negative
  obtain ⟨part', hpart', hfraction⟩ := exists_foldlM_fraction hpart h.fraction
  obtain ⟨last, hlast, hexp⟩ := exists_foldlM_exp hpart' h.exp
  refine ⟨_, ?_, hlast, ?_⟩
  · rw [Numeral.text, List.append_assoc, hwhole, hfraction, hexp]
  · cases fraction <;> cases exp <;> simp [toNumeral]

end OpenNumeral

end RuleWatch.Json
