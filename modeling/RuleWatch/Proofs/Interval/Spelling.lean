import Mathlib.Data.List.Nodup
import Mathlib.Data.List.TakeWhile
import RuleWatch.Interval
import RuleWatch.Proofs.Result
import RuleWatch.Proofs.Text.Place

/-!
# How intervals are written

The text of an interval is made of measures, digits and a unit each, and the units follow one
another as in `units`, each at most once. Digits end where letters begin, and letters end where the
digits of the next measure begin: so a text is made of measures in one way at most
(`Spells.unique`), no unit is taken for the beginning of another one, and what is read is what is
written (`parse_eq_ok_iff`).
-/

namespace RuleWatch.Interval

open Result

/-! ## Measures -/

/-- Digits and a unit. -/
structure Measure where
  digits : List Char
  unit : Unit
  deriving DecidableEq, Repr

namespace Measure

/-- How the measure is written. -/
def text (m : Measure) : List Char :=
  m.digits ++ m.unit.symbol

def length (m : Measure) : Nat :=
  Text.digitsValue m.digits * m.unit.length

/-- There are digits, and nothing else where they stand. -/
def IsWritten (m : Measure) : Prop :=
  m.digits ≠ [] ∧ ∀ c ∈ m.digits, c.isDigit

end Measure

/-- The length of measures together, however great it is. -/
def lengthOf : List Measure → Nat
  | [] => 0
  | m :: ms => m.length + lengthOf ms

/-- The measures one after another are the text, and their units follow one another as in a list. -/
structure Spells (us : List Unit) (ms : List Measure) (cs : List Char) : Prop where
  text_eq : ms.flatMap Measure.text = cs
  isWritten : ∀ m ∈ ms, m.IsWritten
  ordered : (ms.map Measure.unit).Sublist us

/-- The text is made of measures, at least one, and this is their length, which fits in 64 bits. -/
def Denotes (s : String) (length : Nat) : Prop :=
  ∃ ms, ms ≠ [] ∧ Spells units ms s.toList ∧ lengthOf ms = length ∧ length ≤ Text.maxUInt64

/-- Units are written in letters and have a length, and no two are written alike. -/
structure IsScale (us : List Unit) : Prop where
  symbol_ne_nil : ∀ u ∈ us, u.symbol ≠ []
  isAlpha : ∀ u ∈ us, ∀ c ∈ u.symbol, c.isAlpha
  length_pos : ∀ u ∈ us, 0 < u.length
  nodup : (us.map Unit.symbol).Nodup

theorem isScale_units : IsScale units where
  symbol_ne_nil := by decide
  isAlpha u hu := by
    have hall : units.all fun u ↦ u.symbol.all Char.isAlpha := by decide
    exact List.all_eq_true.mp (List.all_eq_true.mp hall u hu)
  length_pos := by decide
  nodup := by decide

variable {us : List Unit} {u : Unit} {m : Measure} {ms ms' : List Measure} {cs rest : List Char}
  {total d : Nat}

theorem IsScale.tail (h : IsScale (u :: us)) : IsScale us where
  symbol_ne_nil v hv := h.symbol_ne_nil v (.tail _ hv)
  isAlpha v hv := h.isAlpha v (.tail _ hv)
  length_pos v hv := h.length_pos v (.tail _ hv)
  nodup := (List.nodup_cons.mp h.nodup).2

/-! ## Where digits and letters end -/

theorem isDigit_eq_false_of_isAlpha {c : Char} (h : c.isAlpha) : c.isDigit = false := by
  refine Bool.eq_false_iff.mpr fun hdigit ↦ ?_
  have hletter := Text.toNat_of_isAlpha h
  have hnumeral := Text.toNat_of_isDigit hdigit
  omega

/-- What begins a text is found again when something else follows. -/
theorem span_append {p : Char → Bool} {before after : List Char} (h : ∀ c ∈ before, p c)
    (hafter : ∀ c ∈ after.head?, p c = false) :
    (before ++ after).takeWhile p = before ∧ (before ++ after).dropWhile p = after := by
  rw [List.takeWhile_append_of_pos h, List.dropWhile_append_of_pos h]
  cases after with
  | nil => simp
  | cons c after => simp [hafter c rfl]

/-- Measures begin with a digit. -/
theorem isDigit_of_mem_head? (h : ∀ m ∈ ms, m.IsWritten) :
    ∀ c ∈ (ms.flatMap Measure.text).head?, c.isDigit := by
  cases ms with
  | nil => simp
  | cons m ms =>
    obtain ⟨hne, hdigits⟩ := h m (.head _)
    obtain ⟨c, digits, heq⟩ := List.exists_cons_of_ne_nil hne
    simpa [Measure.text, heq] using hdigits c (heq ▸ .head _)

/-- The first measure is told from those that follow it. -/
structure Begins (m : Measure) (rest cs : List Char) : Prop where
  takeWhile_isDigit : cs.takeWhile Char.isDigit = m.digits
  takeWhile_isAlpha : (cs.dropWhile Char.isDigit).takeWhile Char.isAlpha = m.unit.symbol
  dropWhile_isAlpha : (cs.dropWhile Char.isDigit).dropWhile Char.isAlpha = rest

theorem begins_flatMap (hus : IsScale us) (hunit : m.unit ∈ us) (h : ∀ m' ∈ m :: ms, m'.IsWritten) :
    Begins m (ms.flatMap Measure.text) ((m :: ms).flatMap Measure.text) := by
  have hrest : ∀ c ∈ (ms.flatMap Measure.text).head?, c.isAlpha = false := by
    intro c hc
    have hdigit := isDigit_of_mem_head? (fun m' hm' ↦ h m' (.tail _ hm')) c hc
    exact Bool.eq_false_iff.mpr fun halpha ↦ by simp [isDigit_eq_false_of_isAlpha halpha] at hdigit
  have hletters : ∀ c ∈ (m.unit.symbol ++ ms.flatMap Measure.text).head?, c.isDigit = false := by
    obtain ⟨c, letters, heq⟩ := List.exists_cons_of_ne_nil (hus.symbol_ne_nil _ hunit)
    simpa [heq] using isDigit_eq_false_of_isAlpha (hus.isAlpha _ hunit c (heq ▸ .head _))
  obtain ⟨hdigits, hafter⟩ := span_append (h m (.head _)).2 hletters
  obtain ⟨hsymbol, hrest⟩ := span_append (hus.isAlpha _ hunit) hrest
  rw [List.flatMap_cons, Measure.text, List.append_assoc]
  exact ⟨hdigits, by rw [hafter, hsymbol], by rw [hafter, hrest]⟩

/-- A text is made of measures in one way at most. -/
theorem Spells.unique (hus : IsScale us) (h : Spells us ms cs) (h' : Spells us ms' cs) :
    ms = ms' := by
  have hmem {ms : List Measure} (h : Spells us ms cs) : ∀ m ∈ ms, m.unit ∈ us :=
    fun m hm ↦ h.ordered.subset (List.mem_map_of_mem hm)
  have hunits := hmem h
  have hunits' := hmem h'
  obtain ⟨rfl, hwritten, -⟩ := h
  obtain ⟨htext, hwritten', -⟩ := h'
  -- the order of the units does not matter any more
  clear hmem
  induction ms generalizing ms' with
  | nil =>
    cases ms' with
    | nil => rfl
    | cons m' ms' =>
      have hne := (hwritten' m' (.head _)).1
      simp [Measure.text, hne] at htext
  | cons m ms ih =>
    cases ms' with
    | nil =>
      have hne := (hwritten m (.head _)).1
      simp [Measure.text, hne] at htext
    | cons m' ms' =>
      have hbegins := begins_flatMap hus (hunits m (.head _)) hwritten
      have hbegins' := begins_flatMap hus (hunits' m' (.head _)) hwritten'
      rw [htext] at hbegins'
      have hdigits : m.digits = m'.digits :=
        hbegins.takeWhile_isDigit.symm.trans hbegins'.takeWhile_isDigit
      have hsymbol : m.unit.symbol = m'.unit.symbol :=
        hbegins.takeWhile_isAlpha.symm.trans hbegins'.takeWhile_isAlpha
      have hunit : m.unit = m'.unit :=
        List.inj_on_of_nodup_map hus.nodup (hunits m (.head _)) (hunits' m' (.head _)) hsymbol
      have hrest : ms'.flatMap Measure.text = ms.flatMap Measure.text :=
        hbegins'.dropWhile_isAlpha.symm.trans hbegins.dropWhile_isAlpha
      have hms : ms = ms' :=
        ih (fun n hn ↦ hunits n (.tail _ hn)) (fun n hn ↦ hunits' n (.tail _ hn))
          (fun n hn ↦ hwritten n (.tail _ hn)) hrest (fun n hn ↦ hwritten' n (.tail _ hn))
      cases m
      cases m'
      simp_all

/-! ## Reading -/

/-- A group that is read is digits, letters and a rest, and nothing is lost. -/
theorem exists_digits_of_read {group : Group} (h : Group.read cs = .ok group) :
    ∃ digits, digits ≠ [] ∧ (∀ c ∈ digits, c.isDigit) ∧ Text.digitsValue digits = group.number ∧
      digits ++ (group.letters ++ group.rest) = cs := by
  unfold Group.read at h
  simp only at h
  split at h
  · contradiction
  next hne =>
  split at h
  · contradiction
  cases h
  refine ⟨_, by simpa using hne, fun c hc ↦ List.mem_takeWhile_imp hc, rfl, ?_⟩
  rw [List.takeWhile_append_dropWhile, List.takeWhile_append_dropWhile]

/-- The first group is the first measure, unless its number is too large. -/
theorem read_of_begins (hwritten : m.IsWritten) (h : Begins m rest cs) :
    Group.read cs =
      if Text.maxUInt64 < Text.digitsValue m.digits then .error .numberTooLarge
      else .ok ⟨Text.digitsValue m.digits, m.unit.symbol, rest⟩ := by
  simp only [Group.read, h.takeWhile_isDigit, h.takeWhile_isAlpha, h.dropWhile_isAlpha,
    List.isEmpty_iff, hwritten.1, if_false]

theorem sumGroups_nil : sumGroups us total [] = .ok total := by
  unfold sumGroups
  rfl

/-- Each unit is taken, or passed over once and for all. -/
theorem sumGroups_cons (h : cs ≠ []) :
    sumGroups (u :: us) total cs = Group.read cs >>= fun group ↦
      if group.letters = u.symbol then
        if Text.maxUInt64 < total + group.number * u.length then .error .tooLong
        else sumGroups us (total + group.number * u.length) group.rest
      else sumGroups us total cs := by
  obtain ⟨c, cs, rfl⟩ := List.exists_cons_of_ne_nil h
  rfl

theorem sumGroups_nil_units (h : cs ≠ []) :
    sumGroups [] total cs =
      Group.read cs >>= fun group ↦ .error (.misplacedUnit group.letters) := by
  obtain ⟨c, cs, rfl⟩ := List.exists_cons_of_ne_nil h
  rfl

/-- What is read is made of measures. -/
theorem exists_spells_of_sumGroups (htotal : total ≤ Text.maxUInt64)
    (h : sumGroups us total cs = .ok d) :
    ∃ ms, Spells us ms cs ∧ total + lengthOf ms = d ∧ d ≤ Text.maxUInt64 := by
  induction us generalizing total cs with
  | nil =>
    by_cases hcs : cs = []
    · subst hcs
      obtain rfl : total = d := Except.ok.inj (sumGroups_nil.symm.trans h)
      exact ⟨[], ⟨rfl, by simp, .slnil⟩, rfl, htotal⟩
    · rw [sumGroups_nil_units hcs, bind_eq_ok_iff] at h
      obtain ⟨_, -, h⟩ := h
      contradiction
  | cons u us ih =>
    by_cases hcs : cs = []
    · subst hcs
      obtain rfl : total = d := Except.ok.inj (sumGroups_nil.symm.trans h)
      exact ⟨[], ⟨rfl, by simp, List.nil_sublist _⟩, rfl, htotal⟩
    · rw [sumGroups_cons hcs, bind_eq_ok_iff] at h
      obtain ⟨group, hread, h⟩ := h
      split at h
      next hletters =>
        split at h
        · contradiction
        next hfits =>
        obtain ⟨ms, hspells, hlength, hd⟩ := ih (Nat.le_of_not_lt hfits) h
        obtain ⟨digits, hne, hdigits, hnumber, htext⟩ := exists_digits_of_read hread
        let m : Measure := ⟨digits, u⟩
        refine ⟨m :: ms, ⟨?_, ?_, ?_⟩, ?_, hd⟩
        · rw [List.flatMap_cons, hspells.text_eq, ← htext, hletters, Measure.text,
            List.append_assoc]
        · exact List.forall_mem_cons.mpr ⟨⟨hne, hdigits⟩, hspells.isWritten⟩
        · exact hspells.ordered.cons_cons u
        · rw [← hlength, lengthOf, Measure.length, hnumber, Nat.add_assoc]
      next =>
        obtain ⟨ms, hspells, hlength, hd⟩ := ih htotal h
        exact ⟨ms, ⟨hspells.text_eq, hspells.isWritten, hspells.ordered.cons u⟩, hlength, hd⟩

/-- What is made of measures is read, as long as their length fits in 64 bits. -/
theorem sumGroups_of_spells (hus : IsScale us) (h : Spells us ms cs)
    (hfits : total + lengthOf ms ≤ Text.maxUInt64) :
    sumGroups us total cs = .ok (total + lengthOf ms) := by
  obtain ⟨rfl, hwritten, hordered⟩ := h
  induction us generalizing total ms with
  | nil =>
    obtain rfl : ms = [] := List.map_eq_nil_iff.mp (List.sublist_nil.mp hordered)
    exact sumGroups_nil
  | cons u us ih =>
    cases ms with
    | nil => exact sumGroups_nil
    | cons m ms =>
      have hcs : (m :: ms).flatMap Measure.text ≠ [] := by
        simp [Measure.text, (hwritten m (.head _)).1]
      have hmem : m.unit ∈ u :: us := hordered.subset (.head _)
      have hlength : lengthOf (m :: ms) = m.length + lengthOf ms := rfl
      have hpos : 0 < m.unit.length := hus.length_pos _ hmem
      have hnumber : Text.digitsValue m.digits ≤ m.length := Nat.le_mul_of_pos_right _ hpos
      have hread := read_of_begins (hwritten m (.head _)) (begins_flatMap hus hmem hwritten)
      rw [if_neg (by omega)] at hread
      rw [sumGroups_cons hcs, hread]
      change (if m.unit.symbol = u.symbol then _ else _) = _
      rcases List.cons_sublist_cons'.mp hordered with hlater | ⟨rfl, htail⟩
      · -- the measure has a later unit, which is written in another way
        have hne : m.unit.symbol ≠ u.symbol := fun heq ↦
          (List.nodup_cons.mp hus.nodup).1 (heq ▸ List.mem_map_of_mem (hlater.subset (.head _)))
        rw [if_neg hne]
        exact ih hus.tail hfits hwritten hlater
      · change (if m.unit.symbol = m.unit.symbol then
            if Text.maxUInt64 < total + m.length then .error .tooLong
            else sumGroups us (total + m.length) (ms.flatMap Measure.text)
          else _) = _
        rw [if_pos rfl, if_neg (by omega), hlength, ← Nat.add_assoc]
        exact ih hus.tail (by omega) (fun m' hm' ↦ hwritten m' (.tail _ hm')) htail

/-- A text is read as a length just if it is made of measures of that length. -/
theorem parse_eq_ok_iff {s : String} : parse s = .ok d ↔ Denotes s d := by
  have hempty : ∀ ms, Spells units ms [] → ms = [] := fun ms h ↦
    h.unique isScale_units ⟨rfl, by simp, List.nil_sublist _⟩
  unfold parse Denotes
  cases hs : s.toList with
  | nil =>
    refine iff_of_false (by simp) ?_
    rintro ⟨ms, hne, hspells, -⟩
    exact hne (hempty ms hspells)
  | cons c cs =>
    constructor
    · intro h
      obtain ⟨ms, hspells, hlength, hd⟩ := exists_spells_of_sumGroups (Nat.zero_le _) h
      rw [Nat.zero_add] at hlength
      refine ⟨ms, ?_, hspells, hlength, hd⟩
      rintro rfl
      exact List.cons_ne_nil _ _ hspells.text_eq.symm
    · rintro ⟨ms, -, hspells, rfl, hd⟩
      have h := sumGroups_of_spells isScale_units hspells ((Nat.zero_add _).trans_le hd)
      rwa [Nat.zero_add] at h

theorem parsePositive_eq_ok_iff {s : String} : parsePositive s = .ok d ↔ Denotes s d ∧ 0 < d := by
  rw [parsePositive, bind_eq_ok_iff]
  simp only [parse_eq_ok_iff]
  constructor
  · rintro ⟨length, hdenotes, h⟩
    split at h
    · contradiction
    next hne =>
    obtain rfl : length = d := Except.ok.inj h
    exact ⟨hdenotes, Nat.pos_of_ne_zero hne⟩
  · rintro ⟨hdenotes, hpos⟩
    exact ⟨d, hdenotes, if_neg (Nat.ne_of_gt hpos)⟩

end RuleWatch.Interval
