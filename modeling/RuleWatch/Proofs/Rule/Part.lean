import RuleWatch.Proofs.Result
import RuleWatch.Rule.Check
import RuleWatch.Store.Rules

/-!
# The parts of a rule

A rule has six parts, each of which is checked, named by changes and written for itself; the two
halves of a condition are one part. Whatever holds of a rule part by part therefore survives a write
that takes some parts from one draft and leaves the others as they are.

* `Rule.Draft.checkBy_eq_ok_iff`: the check of a draft is a check of its parts.
* `Rule.part_writeParts`: a write takes the parts that the changes name from the draft.
* `Rule.part_merged`: what a rule becomes under changes agrees with it in all other parts.
-/

namespace RuleWatch

/-! ## Equal numbers -/

namespace Double

/-- Equal as numbers: zero has no sign, and what is not a number equals nothing. -/
def Equal (a b : Double) : Prop :=
  a.isNaN = false ∧ (a = b ∨ a.isZero ∧ b.isZero)

theorem isFinite_of_isZero {d : Double} (h : d.isZero) : d.isFinite := by
  have hbits : d.bits.toNat % 2 ^ 63 = 0 := by simpa [isZero] using h
  have hexp : d.exponentField = 0 := by
    rw [exponentField, Nat.pow_eq, Nat.pow_eq]
    omega
  simp [isFinite, hexp]

theorem isNaN_of_isFinite {d : Double} (h : d.isFinite) : d.isNaN = false := by
  rw [isFinite_eq] at h
  simp_all

theorem Equal.refl {d : Double} (h : d.isFinite) : Equal d d :=
  ⟨isNaN_of_isFinite h, .inl rfl⟩

theorem Equal.isFinite_eq {a b : Double} (h : Equal a b) : a.isFinite = b.isFinite := by
  rcases h.2 with rfl | ⟨ha, hb⟩
  · rfl
  · rw [isFinite_of_isZero ha, isFinite_of_isZero hb]

theorem Equal.trans {a b c : Double} (h : Equal a b) (h' : Equal b c) : Equal a c := by
  refine ⟨h.1, ?_⟩
  rcases h.2 with rfl | ⟨ha, hb⟩
  · exact h'.2
  · rcases h'.2 with rfl | ⟨-, hc⟩
    · exact .inr ⟨ha, hb⟩
    · exact .inr ⟨ha, hc⟩

end Double

/-! ## Conditions -/

namespace Condition

/-- The conditions are of one kind, and their thresholds are equal as numbers. -/
def Equal (c c' : Condition) : Prop :=
  c.kind = c'.kind ∧ Option.Rel Double.Equal c.threshold c'.threshold

/-- Either there is no condition, or there are both a kind that is not empty and a finite
threshold. -/
def IsPair (c : Condition) : Prop :=
  c = none ∨ ∃ kind threshold, c = ⟨some kind, some threshold⟩ ∧ kind ≠ "" ∧ threshold.isFinite

/-- No condition is a pair. -/
theorem isPair_none : IsPair none := .inl rfl

/-- A condition that passes the check once it is normalized is a pair. -/
theorem isPair_normalize {c : Condition} (h : Rule.isComplete c.normalize) :
    c.normalize.IsPair := by
  obtain ⟨_ | kind, threshold⟩ := c
  · exact isPair_none
  · by_cases hkind : kind.isEmpty
    · simp [normalize, hkind, isPair_none]
    · simp only [normalize, hkind, Bool.false_eq_true, ↓reduceIte] at h ⊢
      cases threshold with
      | none => simp [Rule.isComplete, hkind] at h
      | some d =>
        refine .inr ⟨kind, d, rfl, ?_, ?_⟩
        · simpa [String.isEmpty_iff] using hkind
        · simpa [Rule.isComplete, hkind] using h

theorem IsPair.isComplete {c : Condition} (h : c.IsPair) : Rule.isComplete c := by
  obtain rfl | ⟨kind, d, rfl, -, hd⟩ := h
  · rfl
  · simp [Rule.isComplete, hd]

theorem IsPair.normalize_eq {c : Condition} (h : c.IsPair) : c.normalize = c := by
  obtain rfl | ⟨kind, d, rfl, hkind, -⟩ := h
  · rfl
  · simp [normalize, String.isEmpty_iff, hkind]

theorem merge_none (c : Condition) : c.merge none = c.normalize := by
  cases c
  simp [merge, none]

theorem eq_none_of_not_isGiven {c : Condition} (h : c.isGiven = false) : c = none := by
  obtain ⟨_ | _, _ | _⟩ := c <;> simp_all [isGiven, none]

/-- A column gives a finite threshold back as a finite one that is equal to it. -/
theorem storedThreshold_of_isFinite {d : Double} (h : d.isFinite) :
    ∃ d', Store.storedThreshold d = some d' ∧ d'.isFinite ∧ Double.Equal d' d := by
  simp only [Store.storedThreshold, Double.isNaN_of_isFinite h, Bool.false_eq_true, ↓reduceIte]
  by_cases hzero : d.isZero
  · exact ⟨Double.zero, by simp [hzero], by decide, by decide, .inr ⟨by decide, hzero⟩⟩
  · exact ⟨d, by simp [hzero], h, .refl h⟩

theorem IsPair.stored {c : Condition} (h : c.IsPair) :
    (Store.storedCondition c).IsPair ∧ (Store.storedCondition c).Equal c := by
  obtain rfl | ⟨kind, d, rfl, hkind, hd⟩ := h
  · exact ⟨isPair_none, rfl, .none⟩
  · obtain ⟨d', hd', hfinite, hequal⟩ := storedThreshold_of_isFinite hd
    have hstored : Store.storedCondition ⟨some kind, some d⟩ = ⟨some kind, some d'⟩ := by
      simp [Store.storedCondition, hd']
    rw [hstored]
    exact ⟨.inr ⟨kind, d', rfl, hkind, hfinite⟩, rfl, .some hequal⟩

theorem IsPair.equal_self {c : Condition} (h : c.IsPair) : c.Equal c := by
  obtain rfl | ⟨kind, d, rfl, -, hd⟩ := h
  · exact ⟨rfl, .none⟩
  · exact ⟨rfl, .some (.refl hd)⟩

theorem Equal.trans {c c' c'' : Condition} (h : c.Equal c') (h' : c'.Equal c'') : c.Equal c'' := by
  obtain ⟨hkind, hthreshold⟩ := h
  obtain ⟨hkind', hthreshold'⟩ := h'
  refine ⟨hkind.trans hkind', ?_⟩
  generalize c.threshold = t at hthreshold ⊢
  generalize c'.threshold = t' at hthreshold hthreshold'
  generalize c''.threshold = t'' at hthreshold' ⊢
  cases hthreshold with
  | none =>
    cases hthreshold'
    exact .none
  | some hd =>
    cases hthreshold' with
    | some hd' => exact .some (hd.trans hd')

theorem Equal.normalize {c c' : Condition} (h : c.Equal c') : c.normalize.Equal c'.normalize := by
  obtain ⟨kind, threshold⟩ := c
  obtain ⟨kind', threshold'⟩ := c'
  obtain ⟨hkind, hthreshold⟩ := h
  cases hkind
  rcases kind with _ | kind
  · exact ⟨rfl, .none⟩
  · by_cases hempty : kind.isEmpty
    · simpa [Condition.normalize, hempty] using isPair_none.equal_self
    · simpa [Condition.normalize, hempty] using ⟨rfl, hthreshold⟩

/-- Equal conditions stay equal under the same changes, unless a threshold that is given there is no
number: then they become the same. -/
theorem Equal.merge {c c' : Condition} (h : c.Equal c') (changes : Condition) :
    c.merge changes = c'.merge changes ∨ (c.merge changes).Equal (c'.merge changes) := by
  obtain ⟨kind, threshold⟩ := changes
  cases threshold with
  | none => exact .inr (Equal.normalize ⟨by simp [h.1], h.2⟩)
  | some d => exact .inl (by simp [Condition.merge, h.1])

theorem Equal.isComplete_eq {c c' : Condition} (h : c.Equal c') :
    Rule.isComplete c = Rule.isComplete c' := by
  obtain ⟨kind, t⟩ := c
  obtain ⟨kind', t'⟩ := c'
  obtain ⟨hkind, ht⟩ := h
  cases hkind
  cases ht with
  | none => rfl
  | some hd => simp [Rule.isComplete, hd.isFinite_eq]

end Condition

/-! ## Parts -/

namespace Rule

open Result

/-- A part of a rule, which changes as a whole. -/
inductive Part
  | name | expression | subhealth | fault | severity | duration
  deriving DecidableEq, Repr

/-- What a part holds. -/
abbrev Part.Value : Part → Type
  | .name | .expression | .severity | .duration => String
  | .subhealth | .fault => Condition

/-- What a draft has in a part. -/
def Draft.part (d : Draft) : (p : Part) → p.Value
  | .name => d.name
  | .expression => d.expression
  | .subhealth => d.subhealth
  | .fault => d.fault
  | .severity => d.severity
  | .duration => d.duration

/-- The changes name a part, or a half of it. -/
def Changes.names (c : Changes) : Part → Bool
  | .name => c.name.isSome
  | .expression => c.expression.isSome
  | .subhealth => c.subhealth.isGiven
  | .fault => c.fault.isGiven
  | .severity => c.severity.isSome
  | .duration => c.duration.isSome

/-- The values of a part are equal, thresholds as numbers. -/
def Part.Equal : (p : Part) → p.Value → p.Value → Prop
  | .name | .expression | .severity | .duration => Eq
  | .subhealth | .fault => Condition.Equal

/-- The drafts are equal, thresholds as numbers. -/
def Draft.Equal (d d' : Draft) : Prop :=
  ∀ p : Part, p.Equal (d.part p) (d'.part p)

/-- What the check asks of a part. -/
def Part.Passes (gate : Expression.Gate) : (p : Part) → p.Value → Prop
  | .name, v => isName v
  | .expression, v => gate v = .ok ()
  | .subhealth, c | .fault, c => isComplete c
  | .severity, v => (Severity.ofName? v).isSome
  | .duration, v => ∃ length, Interval.parsePositive v = .ok length

/-- What a stored rule has in a part: a value that passes the check, and a condition either not at
all or whole. -/
def Part.IsSound (gate : Expression.Gate) : (p : Part) → p.Value → Prop
  | .subhealth, c | .fault, c => c.IsPair
  | p, v => p.Passes gate v

/-- All parts of the draft are sound. -/
def Draft.IsSound (gate : Expression.Gate) (d : Draft) : Prop :=
  ∀ p : Part, p.IsSound gate (d.part p)

variable {gate : Expression.Gate} {d d' : Draft}

theorem Part.forall_iff {P : Part → Prop} :
    (∀ p, P p) ↔ P .name ∧ P .expression ∧ P .subhealth ∧ P .fault ∧ P .severity ∧ P .duration :=
  ⟨fun h ↦ ⟨h _, h _, h _, h _, h _, h _⟩,
    fun ⟨h₁, h₂, h₃, h₄, h₅, h₆⟩ p ↦ by cases p <;> assumption⟩

/-! ### The check -/

theorem demand_eq_ok_iff {ε : Type} {b : Bool} {fault : ε} : demand b fault = .ok () ↔ b := by
  cases b <;> simp [demand]

/-- The check of a part. -/
def Part.check (gate : Expression.Gate) : (p : Part) → p.Value → Except Invalid Unit
  | .name, v => demand (isName v) .name
  | .expression, v => (gate v).mapError .expression
  | .subhealth, c => demand (isComplete c) .subhealthThreshold
  | .fault, c => demand (isComplete c) .faultThreshold
  | .severity, v => demand (Severity.ofName? v).isSome .severity
  | .duration, v => do
    let _ ← (Interval.parsePositive v).mapError (.duration v)

theorem Part.check_eq_ok_iff {p : Part} {v : p.Value} :
    p.check gate v = .ok () ↔ p.Passes gate v := by
  cases p <;> simp only [check, Passes, demand_eq_ok_iff, mapError_eq_ok_iff, bind_eq_ok_iff, pure,
    Except.pure, and_true]

/-- A draft is checked part by part. -/
theorem Draft.checkBy_eq : d.checkBy gate = (do
    Part.name.check gate d.name
    Part.expression.check gate d.expression
    Part.subhealth.check gate d.subhealth
    Part.fault.check gate d.fault
    Part.severity.check gate d.severity
    Part.duration.check gate d.duration) := rfl

/-- The check of a draft is a check of its parts. -/
theorem Draft.checkBy_eq_ok_iff :
    d.checkBy gate = .ok () ↔ ∀ p : Part, p.Passes gate (d.part p) := by
  simp only [checkBy_eq, bind_unit_eq_ok_iff, Part.check_eq_ok_iff, Part.forall_iff, Draft.part]

/-- Drafts whose parts fare alike under the check fare alike as a whole. -/
theorem Draft.checkBy_congr (h : ∀ p : Part, p.check gate (d.part p) = p.check gate (d'.part p)) :
    d.checkBy gate = d'.checkBy gate := by
  obtain ⟨hname, hexpression, hsubhealth, hfault, hseverity, hduration⟩ := Part.forall_iff.mp h
  simp only [part] at hname hexpression hsubhealth hfault hseverity hduration
  rw [checkBy_eq, checkBy_eq, hname, hexpression, hsubhealth, hfault, hseverity, hduration]

/-- A draft that is like a good one but for its expression is good if the gate lets the expression
pass. -/
theorem Draft.checkBy_eq_ok_iff_gate (h : d'.checkBy gate = .ok ())
    (hparts : ∀ p : Part, p ≠ .expression → d.part p = d'.part p) :
    d.checkBy gate = .ok () ↔ gate d.expression = .ok () := by
  rw [checkBy_eq_ok_iff]
  constructor
  · exact fun hall ↦ hall .expression
  · intro hgate p
    by_cases hp : p = .expression
    · subst hp
      exact hgate
    · rw [hparts p hp]
      exact checkBy_eq_ok_iff.mp h p

/-- Equal values of a part fare alike under the check. -/
theorem Part.Equal.check_eq {p : Part} {v v' : p.Value} (h : p.Equal v v') :
    p.check gate v = p.check gate v' := by
  cases p with
  | subhealth | fault => exact congrArg (demand · _) (Condition.Equal.isComplete_eq h)
  | _ => exact congrArg _ h

/-- Drafts that are equal part by part, or even the same, fare alike under the check. -/
theorem Draft.checkBy_eq_of_alike
    (h : ∀ p : Part, d.part p = d'.part p ∨ p.Equal (d.part p) (d'.part p)) :
    d.checkBy gate = d'.checkBy gate :=
  checkBy_congr fun p ↦ (h p).elim (congrArg _) Part.Equal.check_eq

/-! ### Sound parts -/

theorem Part.IsSound.passes {p : Part} {v : p.Value} (h : p.IsSound gate v) : p.Passes gate v := by
  cases p with
  | subhealth | fault => exact Condition.IsPair.isComplete h
  | _ => exact h

theorem Draft.IsSound.checkBy_eq (h : d.IsSound gate) : d.checkBy gate = .ok () :=
  checkBy_eq_ok_iff.mpr fun p ↦ (h p).passes

/-- A draft is sound when it passes the check and its conditions are pairs. -/
theorem Draft.isSound_of_checkBy (h : d.checkBy gate = .ok ()) (hsubhealth : d.subhealth.IsPair)
    (hfault : d.fault.IsPair) : d.IsSound gate := by
  intro p
  have hp := checkBy_eq_ok_iff.mp h p
  cases p with
  | subhealth => exact hsubhealth
  | fault => exact hfault
  | _ => exact hp

/-- A normalized draft that passes the check is sound. -/
theorem Draft.isSound_normalize (h : d.normalize.checkBy gate = .ok ()) :
    d.normalize.IsSound gate :=
  have hp := checkBy_eq_ok_iff.mp h
  isSound_of_checkBy h (Condition.isPair_normalize (hp .subhealth))
    (Condition.isPair_normalize (hp .fault))

/-- What a rule becomes under changes is sound if it passes the check. -/
theorem isSound_merged {rule : Rule} {changes : Changes}
    (h : (rule.merged changes).checkBy gate = .ok ()) : (rule.merged changes).IsSound gate :=
  have hp := Draft.checkBy_eq_ok_iff.mp h
  Draft.isSound_of_checkBy h (Condition.isPair_normalize (hp .subhealth))
    (Condition.isPair_normalize (hp .fault))

/-- A sound part has finite thresholds, so that it is equal to itself. -/
theorem Part.IsSound.equal_self {p : Part} {v : p.Value} (h : p.IsSound gate v) : p.Equal v v := by
  cases p with
  | subhealth | fault => exact Condition.IsPair.equal_self h
  | _ => rfl

theorem Part.Equal.trans {p : Part} {v v' v'' : p.Value} (h : p.Equal v v') (h' : p.Equal v' v'') :
    p.Equal v v'' := by
  cases p with
  | subhealth | fault => exact Condition.Equal.trans h h'
  | _ => exact Eq.trans h h'

/-- A sound part is kept as it is, but for the sign of a zero. -/
theorem Part.IsSound.stored {p : Part} (h : p.IsSound gate (d.part p)) :
    p.IsSound gate ((Store.storedDraft d).part p) ∧
      p.Equal ((Store.storedDraft d).part p) (d.part p) := by
  cases p with
  | subhealth | fault => exact Condition.IsPair.stored h
  | _ => exact ⟨h, rfl⟩

/-! ### Writes -/

/-- What is stored for a part depends on nothing else. -/
theorem part_storedDraft_congr {p : Part} (h : d.part p = d'.part p) :
    (Store.storedDraft d).part p = (Store.storedDraft d').part p := by
  cases p with
  | subhealth | fault => exact congrArg Store.storedCondition h
  | _ => exact h

/-- Rules with the same parts, the same id and the same time of making are the same, but for the
time of the last change. -/
theorem eq_of_part_eq {row row' : Rule} (hpart : ∀ p : Part, row'.part p = row.part p)
    (hid : row'.id = row.id) (hcreated : row'.createdAt = row.createdAt) :
    row' = { row with updatedAt := row'.updatedAt } := by
  obtain ⟨⟨name, expression, subhealth, fault, severity, duration⟩, id, createdAt, updatedAt⟩ :=
    row'
  obtain ⟨hname, hexpression, hsubhealth, hfault, hseverity, hduration⟩ := Part.forall_iff.mp hpart
  simp only [Draft.part] at hname hexpression hsubhealth hfault hseverity hduration
  simp only at hid hcreated
  subst hname hexpression hsubhealth hfault hseverity hduration hid hcreated
  rfl

/-- A write takes the parts that the changes name from the draft. -/
theorem part_writeParts {rule : Rule} {changes : Changes} {now : Int} (p : Part) :
    (Store.writeParts rule changes d now).part p =
      if changes.names p then d.part p else rule.part p := by
  cases p <;> rfl

/-- What a sound rule becomes under changes agrees with it in the parts that they do not name. -/
theorem part_merged {rule : Rule} {changes : Changes} {p : Part} (h : rule.IsSound gate)
    (hp : changes.names p = false) : (rule.merged changes).part p = rule.part p := by
  have hsubhealth : rule.subhealth.IsPair := h .subhealth
  have hfault : rule.fault.IsPair := h .fault
  cases p <;> simp_all [Changes.names, Draft.part, merged]
  · rw [Condition.eq_none_of_not_isGiven hp, Condition.merge_none, hsubhealth.normalize_eq]
  · rw [Condition.eq_none_of_not_isGiven hp, Condition.merge_none, hfault.normalize_eq]

/-- What a rule becomes under changes in a part depends on nothing else of it. -/
theorem part_merged_congr {rule rule' : Rule} {changes : Changes} {p : Part}
    (h : rule.part p = rule'.part p) :
    (rule.merged changes).part p = (rule'.merged changes).part p := by
  cases p <;> simp_all [Draft.part, merged]

/-- Changes of a sound rule pass the check or fail it by what they name alone. -/
theorem checkBy_merged_congr {rule rule' : Rule} {changes : Changes} (hrule : rule.IsSound gate)
    (hrule' : rule'.IsSound gate)
    (h : ∀ p : Part, changes.names p → rule.part p = rule'.part p) :
    (rule.merged changes).checkBy gate = (rule'.merged changes).checkBy gate := by
  refine Draft.checkBy_congr fun p ↦ ?_
  cases hp : changes.names p with
  | true => rw [part_merged_congr (h p hp)]
  | false =>
    -- what is not named is as it is kept, and therefore passes
    rw [part_merged hrule hp, part_merged hrule' hp, Part.check_eq_ok_iff.mpr (hrule p).passes,
      Part.check_eq_ok_iff.mpr (hrule' p).passes]

/-- A write takes a sound rule to what it becomes under the changes, when that is sound. -/
theorem equal_writeParts {rule : Rule} {changes : Changes} {now : Int} (h : rule.IsSound gate)
    (hmerged : (rule.merged changes).IsSound gate) :
    (Store.writeParts rule changes (Store.storedDraft (rule.merged changes)) now).Equal
      (rule.merged changes) := by
  intro p
  rw [part_writeParts]
  cases hp : changes.names p with
  | true => exact (hmerged p).stored.2
  | false =>
    rw [part_merged h hp]
    exact (h p).equal_self

end Rule

end RuleWatch
