import RuleWatch.Proofs.Interval.Spelling

/-!
# Intervals read by place

An interval can be read group by group and without taking its text apart: the bytes of digits and of
letters are counted, the text is cut after so many bytes, and the units that come after the last one
are looked through. A text cannot be cut inside a character or beyond its end, and no unit can be
had from beyond the end of `units`. The reader never tries to (`Scan.reads_iff`), since what it
counts are characters of one byte; it comes to an end, and to the same one as `parse`.
-/

namespace RuleWatch.Interval

/-! ## The reader -/

/-- Where a reader stands: what is left of the text, how many units may not come any more, and the
length up to here. -/
structure Scan where
  rest : List Char
  past : Nat
  total : Nat

namespace Scan

/-- Where a reader begins. -/
def start (s : String) : Scan := ⟨s.toList, 0, 0⟩

/-- The units that may still come. None are to be had from beyond the end. -/
def later? (s : Scan) : Option (List Unit) :=
  if s.past ≤ units.length then some (units.drop s.past) else none

/-- The number, if it fits in 64 bits. -/
def fitting? (n : Nat) : Option Nat :=
  if n ≤ Text.maxUInt64 then some n else none

/-- Reads one group, and nothing at all if that cannot be done at the places in question. -/
def group? (cs : List Char) : Option (Except Fault Group) := do
  let digits := Text.countBytes Char.isDigit cs
  if digits = 0 then return .error .noNumber
  let (digits, rest) ← Text.splitAtByte? digits cs
  if Text.maxUInt64 < Text.digitsValue digits then return .error .numberTooLarge
  let (letters, rest) ← Text.splitAtByte? (Text.countBytes Char.isAlpha rest) rest
  return .ok ⟨Text.digitsValue digits, letters, rest⟩

/-- Reads one group and takes its unit from those that may still come. -/
def step? (s : Scan) : Option (Except Fault Scan) := do
  match ← group? s.rest with
  | .error fault => return .error fault
  | .ok group =>
    let later ← s.later?
    match later.findIdx? fun unit ↦ group.letters = unit.symbol with
    | none => return .error (.misplacedUnit group.letters)
    | some skipped =>
      let unit ← units[s.past + skipped]?
      match (fitting? (group.number * unit.length)).bind
          fun length ↦ fitting? (s.total + length) with
      | none => return .error .tooLong
      | some total => return .ok ⟨group.rest, s.past + skipped + 1, total⟩

/-- How a reader comes to its end: nothing is left, or there is a fault. -/
inductive Ends : Scan → Except Fault Nat → Prop
  | done {past total : Nat} : Ends ⟨[], past, total⟩ (.ok total)
  | fault {s : Scan} {fault : Fault} (h : s.rest ≠ []) (hstep : s.step? = some (.error fault)) :
    Ends s (.error fault)
  | next {s s' : Scan} {result : Except Fault Nat} (h : s.rest ≠ [])
    (hstep : s.step? = some (.ok s')) (hends : Ends s' result) : Ends s result

/-- What is read of a text: a fault if it is empty, and else what a reader comes to that goes
through all of it. -/
def Reads (s : String) (result : Except Fault Nat) : Prop :=
  s = "" ∧ result = .error .empty ∨ s ≠ "" ∧ Ends (start s) result

variable {s : Scan} {result result' : Except Fault Nat}

/-- A reader comes to one end. -/
theorem Ends.unique (h : Ends s result) (h' : Ends s result') : result = result' := by
  induction h with
  | done =>
    cases h' with
    | done => rfl
    | fault h | next h => exact absurd rfl h
  | fault h hstep =>
    cases h' with
    | done => exact absurd rfl h
    | fault _ hstep' => simpa [hstep] using hstep'
    | next _ hstep' => simp [hstep] at hstep'
  | next h hstep _ ih =>
    cases h' with
    | done => exact absurd rfl h
    | fault _ hstep' => simp [hstep] at hstep'
    | next _ hstep' hends =>
      obtain rfl : _ = _ := by simpa [hstep] using hstep'
      exact ih hends

end Scan

/-! ## Units that are passed over -/

variable {us before after : List Unit} {unit : Unit} {total : Nat} {cs : List Char} {group : Group}

/-- A group that can be read is not empty. -/
theorem ne_nil_of_read (h : Group.read cs = .ok group) : cs ≠ [] := by
  rintro rfl
  contradiction

/-- A unit that is none of those that may still come. -/
theorem sumGroups_of_misplaced (hread : Group.read cs = .ok group)
    (h : ∀ u ∈ us, group.letters ≠ u.symbol) :
    sumGroups us total cs = .error (.misplacedUnit group.letters) := by
  have hcs := ne_nil_of_read hread
  induction us with
  | nil =>
    rw [sumGroups_nil_units hcs, hread]
    rfl
  | cons u us ih =>
    rw [sumGroups_cons hcs, hread]
    change (if group.letters = u.symbol then _ else sumGroups us total cs) = _
    rw [if_neg (h u (.head _))]
    exact ih fun v hv ↦ h v (.tail _ hv)

/-- The units before the one that comes are passed over. -/
theorem sumGroups_append (hread : Group.read cs = .ok group)
    (h : ∀ u ∈ before, group.letters ≠ u.symbol) (hunit : group.letters = unit.symbol) :
    sumGroups (before ++ unit :: after) total cs =
      if Text.maxUInt64 < total + group.number * unit.length then .error .tooLong
      else sumGroups after (total + group.number * unit.length) group.rest := by
  have hcs := ne_nil_of_read hread
  induction before with
  | nil =>
    rw [List.nil_append, sumGroups_cons hcs, hread]
    exact if_pos hunit
  | cons u before ih =>
    rw [List.cons_append, sumGroups_cons hcs, hread]
    change
      (if group.letters = u.symbol then _ else sumGroups (before ++ unit :: after) total cs) = _
    rw [if_neg (h u (.head _))]
    exact ih fun v hv ↦ h v (.tail _ hv)

/-- A group that cannot be read is not read, whatever units may come. -/
theorem sumGroups_of_read_error {fault : Fault} (hcs : cs ≠ []) (h : Group.read cs = .error fault) :
    sumGroups us total cs = .error fault := by
  cases us with
  | nil =>
    rw [sumGroups_nil_units hcs, h]
    rfl
  | cons u us =>
    rw [sumGroups_cons hcs, h]
    rfl

namespace Scan

/-! ## The end -/

/-- The places in question are places of the text. -/
theorem group?_eq (cs : List Char) : group? cs = some (Group.read cs) := by
  have hdigits (c : Char) (hc : c.isDigit) : c.toNat < 128 :=
    Nat.lt_of_le_of_lt (Text.toNat_of_isDigit hc).2 (by decide)
  have halpha (c : Char) (hc : c.isAlpha) : c.toNat < 128 :=
    Nat.lt_of_le_of_lt (Text.toNat_of_isAlpha hc).2 (by decide)
  simp only [group?, Group.read, Text.countBytes_eq hdigits, Text.countBytes_eq halpha,
    Text.splitAtByte?_takeWhile hdigits, Text.splitAtByte?_takeWhile halpha,
    List.length_eq_zero_iff, List.isEmpty_iff, Option.bind_eq_bind, Option.bind_some]
  split
  · rfl
  split
  · rfl
  rfl

variable {s : Scan}

/-- A product that does not fit makes a sum that does not fit either. -/
theorem fitting?_bind (total length : Nat) :
    ((fitting? length).bind fun length ↦ fitting? (total + length)) =
      fitting? (total + length) := by
  unfold fitting?
  by_cases h : length ≤ Text.maxUInt64
  · rw [if_pos h, Option.bind_some]
  · have hsum : ¬ total + length ≤ Text.maxUInt64 := by omega
    rw [if_neg h, if_neg hsum, Option.bind_none]

theorem later?_eq (h : s.past ≤ units.length) : s.later? = some (units.drop s.past) :=
  if_pos h

theorem step?_of_error {fault : Fault} (h : Group.read s.rest = .error fault) :
    s.step? = some (.error fault) := by
  rw [step?, group?_eq, h]
  rfl

theorem step?_of_misplaced (hpast : s.past ≤ units.length) (hread : Group.read s.rest = .ok group)
    (h : (units.drop s.past).findIdx? (fun unit ↦ group.letters = unit.symbol) = none) :
    s.step? = some (.error (.misplacedUnit group.letters)) := by
  rw [step?, group?_eq, hread, later?_eq hpast]
  simp only [Option.bind_eq_bind, Option.bind_some, h]
  rfl

theorem step?_of_unit {skipped : Nat} (hpast : s.past ≤ units.length)
    (hread : Group.read s.rest = .ok group)
    (h : (units.drop s.past).findIdx? (fun unit ↦ group.letters = unit.symbol) = some skipped)
    (hunit : units[s.past + skipped]? = some unit) :
    s.step? = some (
      if Text.maxUInt64 < s.total + group.number * unit.length then .error .tooLong
      else .ok ⟨group.rest, s.past + skipped + 1, s.total + group.number * unit.length⟩) := by
  rw [step?, group?_eq, hread, later?_eq hpast]
  simp only [Option.bind_eq_bind, Option.bind_some, h, hunit, fitting?_bind]
  by_cases hfits : s.total + group.number * unit.length ≤ Text.maxUInt64
  · rw [fitting?, if_pos hfits, if_neg (Nat.not_lt_of_le hfits)]
    rfl
  · rw [fitting?, if_neg hfits, if_pos (Nat.lt_of_not_le hfits)]
    rfl

/-- From wherever a reader stands it comes to its end. Each step leaves fewer units to come. -/
theorem ends_sumGroups (s : Scan) (hpast : s.past ≤ units.length) :
    Ends s (sumGroups (units.drop s.past) s.total s.rest) := by
  induction hleft : units.length - s.past using Nat.strongRecOn generalizing s with
  | _ left ih =>
  by_cases hrest : s.rest = []
  · obtain ⟨rest, past, total⟩ := s
    subst hrest
    exact sumGroups_nil ▸ .done
  cases hread : Group.read s.rest with
  | error fault =>
    rw [sumGroups_of_read_error hrest hread]
    exact .fault hrest (step?_of_error hread)
  | ok group =>
    cases hfound : (units.drop s.past).findIdx? fun unit ↦ group.letters = unit.symbol with
    | none =>
      have hnone : ∀ u ∈ units.drop s.past, group.letters ≠ u.symbol := by
        simpa using List.findIdx?_eq_none_iff.mp hfound
      rw [sumGroups_of_misplaced hread hnone]
      exact .fault hrest (step?_of_misplaced hpast hread hfound)
    | some skipped =>
      obtain ⟨hlt, hunit, hbefore⟩ := List.findIdx?_eq_some_iff_getElem.mp hfound
      let unit := (units.drop s.past)[skipped]
      have hplace : units[s.past + skipped]? = some unit :=
        List.getElem?_drop ▸ List.getElem?_eq_getElem hlt
      have hstep := step?_of_unit hpast hread hfound hplace
      have hpassed : ∀ u ∈ (units.drop s.past).take skipped, group.letters ≠ u.symbol := by
        intro u hu
        obtain ⟨i, hi, rfl⟩ := List.mem_take_iff_getElem.mp hu
        simpa using hbefore i (by omega)
      have hsplit : units.drop s.past =
          (units.drop s.past).take skipped ++ unit :: units.drop (s.past + skipped + 1) := by
        calc units.drop s.past
            = (units.drop s.past).take skipped ++ (units.drop s.past).drop skipped :=
              (List.take_append_drop ..).symm
          _ = _ := by rw [List.drop_eq_getElem_cons hlt, List.drop_drop, Nat.add_assoc]
      rw [hsplit, sumGroups_append hread hpassed (of_decide_eq_true hunit)]
      rw [List.length_drop] at hlt
      split
      next hlong =>
        rw [if_pos hlong] at hstep
        exact .fault hrest hstep
      next hfits =>
        rw [if_neg hfits] at hstep
        refine .next hrest hstep (ih _ ?_ _ ?_ rfl)
        all_goals
          dsimp only
          omega

/-- A reader that goes by places reads what `parse` reads, and nothing else. -/
theorem reads_iff {text : String} {result : Except Fault Nat} :
    Reads text result ↔ result = parse text := by
  have hparse : Reads text (parse text) := by
    unfold Reads parse
    cases htext : text.toList with
    | nil => exact .inl ⟨String.toList_eq_nil_iff.mp htext, rfl⟩
    | cons c cs =>
      refine .inr ⟨fun hempty ↦ ?_, ?_⟩
      · rw [String.toList_eq_nil_iff.mpr hempty] at htext
        contradiction
      · have hends : Ends (start text) (sumGroups units 0 text.toList) :=
          ends_sumGroups (start text) (Nat.zero_le _)
        rwa [htext] at hends
  refine ⟨fun h ↦ ?_, fun h ↦ h ▸ hparse⟩
  obtain ⟨rfl, rfl⟩ | ⟨hne, hends⟩ := h
  · rfl
  · obtain ⟨hempty, -⟩ | ⟨-, hends'⟩ := hparse
    · exact absurd hempty hne
    · exact hends.unique hends'

end Scan

/-- A text is read as a length just if it is made of measures, which it is in one way at most, and
they have that length together, which fits in 64 bits; a positive interval has a length that is not
zero besides. A reader that goes by places comes to the same, and never leaves the text. -/
theorem parse_iff_denotes (s : String) :
    (∀ length, parse s = .ok length ↔ Denotes s length) ∧
      (∀ length, parsePositive s = .ok length ↔ Denotes s length ∧ 0 < length) ∧
      (∀ ms ms', Spells units ms s.toList → Spells units ms' s.toList → ms = ms') ∧
      ∀ result, Scan.Reads s result ↔ result = parse s :=
  ⟨fun _ ↦ parse_eq_ok_iff, fun _ ↦ parsePositive_eq_ok_iff,
    fun _ _ h h' ↦ h.unique isScale_units h', fun _ ↦ Scan.reads_iff⟩

/-- Minutes and milliseconds are told apart by what follows the first letter. -/
example : parse "1m1ms" = .ok 60001 := by decide +kernel

end RuleWatch.Interval
