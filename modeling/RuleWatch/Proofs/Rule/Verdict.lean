import RuleWatch.Proofs.Interval.Spelling
import RuleWatch.Proofs.Rule.Name
import RuleWatch.Proofs.Rule.Part

/-!
# What the check of a draft says

Each part of a draft has a requirement of its own (`Part.Meets`), which can be told without the
check. The check goes through the parts in a fixed order, lets a draft pass that meets all
requirements, and otherwise says what is wrong with the first part that does not meet its own
(`Draft.checkBy_tells_first`). The parts after that one are not looked at.
-/

namespace RuleWatch.Rule

open Result

/-! ## Requirements -/

/-- What each part has to be like, when the query grammar accepts some texts. -/
def Part.Meets (accepts : String → Bool) : (p : Part) → p.Value → Prop
  | .name, s => IsWord s
  | .expression, s => (∃ c ∈ s.toList, Text.isBlank c = false) ∧ accepts s
  | .subhealth, c | .fault, c =>
    ∀ kind, c.kind = some kind → kind ≠ "" → ∃ d, c.threshold = some d ∧ d.isFinite
  | .severity, s => s = "warning" ∨ s = "error" ∨ s = "critical"
  | .duration, s => ∃ length, Interval.Denotes s length ∧ 0 < length

/-- What is said of a part that does not meet its requirement. -/
def Part.Reports : (p : Part) → p.Value → Invalid → Prop
  | .name, _, reason => reason = .name
  | .expression, s, reason =>
    reason = .expression (if Text.isBlankText s then .empty else .ungrammatical)
  | .subhealth, _, reason => reason = .subhealthThreshold
  | .fault, _, reason => reason = .faultThreshold
  | .severity, _, reason => reason = .severity
  | .duration, s, reason =>
    ∃ fault, Interval.parsePositive s = .error fault ∧ reason = .duration s fault

variable {accepts : String → Bool} {d : Draft} {p : Part} {v : p.Value} {reason : Invalid}

theorem checkBy_expression_eq_ok_iff {s : String} :
    Expression.checkBy accepts s = .ok () ↔
      (∃ c ∈ s.toList, Text.isBlank c = false) ∧ accepts s := by
  have hblank : Text.isBlankText s = false ↔ ∃ c ∈ s.toList, Text.isBlank c = false := by
    rw [Text.isBlankText, List.all_eq_false]
    simp
  rw [← hblank, Expression.checkBy]
  cases Text.isBlankText s <;> cases accepts s <;> simp

theorem isComplete_iff {c : Condition} :
    isComplete c ↔
      ∀ kind, c.kind = some kind → kind ≠ "" → ∃ d, c.threshold = some d ∧ d.isFinite := by
  obtain ⟨_ | kind, threshold⟩ := c
  · simp [isComplete]
  · simp only [isComplete, Bool.or_eq_true, String.isEmpty_iff, Option.any_eq_true,
      Option.some.injEq, forall_eq', or_iff_not_imp_left, ne_eq]

theorem isSome_ofName?_iff {s : String} :
    (Severity.ofName? s).isSome ↔ s = "warning" ∨ s = "error" ∨ s = "critical" := by
  unfold Severity.ofName?
  split_ifs <;> simp_all

/-- A part passes the check just if it meets its requirement. -/
theorem Part.check_eq_ok_iff_meets :
    p.check (Expression.checkBy accepts) v = .ok () ↔ p.Meets accepts v := by
  rw [check_eq_ok_iff]
  cases p with
  | name => exact isName_iff_isWord
  | expression => exact checkBy_expression_eq_ok_iff
  | subhealth | fault => exact isComplete_iff
  | severity => exact isSome_ofName?_iff
  | duration => exact exists_congr fun _ ↦ Interval.parsePositive_eq_ok_iff

/-- What the check says of a part that does not pass. -/
theorem Part.reports_of_check (h : p.check (Expression.checkBy accepts) v = .error reason) :
    p.Reports v reason := by
  have hdemand {b : Bool} {fault : Invalid} (h : demand b fault = .error reason) :
      reason = fault := by
    cases b with
    | true => contradiction
    | false => exact (Except.error.inj h).symm
  cases p with
  | name | subhealth | fault | severity => exact hdemand h
  | expression =>
    simp only [check, Expression.checkBy] at h
    simp only [Reports]
    split at h
    next hblank =>
      rw [if_pos hblank]
      exact (Except.error.inj h).symm
    next hblank =>
      rw [if_neg hblank]
      split at h
      · contradiction
      · exact (Except.error.inj h).symm
  | duration =>
    simp only [check] at h
    cases hread : Interval.parsePositive v with
    | ok length =>
      rw [hread] at h
      contradiction
    | error fault =>
      rw [hread] at h
      exact ⟨fault, hread, (Except.error.inj h).symm⟩

/-! ## The order of the check -/

/-- The parts in the order in which they are checked. -/
def Part.all : List Part :=
  [.name, .expression, .subhealth, .fault, .severity, .duration]

theorem Part.mem_all (p : Part) : p ∈ all := by
  cases p <;> decide

theorem Draft.checkBy_eq_forM (gate : Expression.Gate) (d : Draft) :
    d.checkBy gate = Part.all.forM fun p ↦ p.check gate (d.part p) := by
  have hlast (x : Except Invalid Unit) : (x >>= fun _ ↦ pure ()) = x := by
    cases x <;> rfl
  rw [checkBy_eq, ← hlast (Part.duration.check gate d.duration)]
  rfl

/-- The part comes after those in `before`, which meet their requirements, and does not meet its
own. -/
structure Draft.FailsFirst (accepts : String → Bool) (d : Draft) (before : List Part) (p : Part) :
    Prop where
  order : before ++ [p] <+: Part.all
  meets : ∀ q ∈ before, q.Meets accepts (d.part q)
  fails : ¬ p.Meets accepts (d.part p)

theorem Part.Reports.unique {reason' : Invalid} (h : p.Reports v reason)
    (h' : p.Reports v reason') : reason = reason' := by
  cases p with
  | duration =>
    obtain ⟨fault, hfault, rfl⟩ := h
    obtain ⟨fault', hfault', rfl⟩ := h'
    rw [hfault] at hfault'
    rw [Except.error.inj hfault']
  | _ => exact h.trans h'.symm

namespace Draft.FailsFirst

variable {before : List Part} {d' : Draft}

/-- What does not meet its requirement is told. -/
theorem exists_error (h : d.FailsFirst accepts before p) :
    ∃ reason, p.check (Expression.checkBy accepts) (d.part p) = .error reason := by
  cases hcheck : p.check (Expression.checkBy accepts) (d.part p) with
  | ok u => exact absurd (Part.check_eq_ok_iff_meets.mp hcheck) h.fails
  | error reason => exact ⟨reason, rfl⟩

/-- The check says of the draft what it says of the first part that fails. -/
theorem checkBy_eq (h : d.FailsFirst accepts before p) :
    d.checkBy (Expression.checkBy accepts) =
      p.check (Expression.checkBy accepts) (d.part p) := by
  obtain ⟨reason, hreason⟩ := h.exists_error
  obtain ⟨after, hall⟩ := h.order
  rw [checkBy_eq_forM, ← hall, List.append_assoc, List.singleton_append, hreason]
  exact forM_append_of_error (fun q hq ↦ Part.check_eq_ok_iff_meets.mpr (h.meets q hq)) hreason

/-- Only the parts up to the one that fails count. -/
theorem congr (h : d.FailsFirst accepts before p)
    (hparts : ∀ q ∈ before ++ [p], d'.part q = d.part q) : d'.FailsFirst accepts before p where
  order := h.order
  meets q hq := by
    rw [hparts q (List.mem_append_left _ hq)]
    exact h.meets q hq
  fails := by
    rw [hparts p (List.mem_append_right _ (List.mem_singleton_self p))]
    exact h.fails

end Draft.FailsFirst

/-- A draft passes the check just if every part meets its requirement. Otherwise the check tells
what is wrong with the first part that does not, whatever the parts after it are. -/
theorem Draft.checkBy_tells_first (accepts : String → Bool) (d : Draft) :
    let gate := Expression.checkBy accepts
    (d.checkBy gate = .ok () ↔ ∀ p : Part, p.Meets accepts (d.part p)) ∧
    (∀ reason, d.checkBy gate = .error reason ↔
      ∃ before p, d.FailsFirst accepts before p ∧ p.Reports (d.part p) reason) ∧
    ∀ before p, d.FailsFirst accepts before p → ∀ d' : Draft,
      (∀ q ∈ before ++ [p], d'.part q = d.part q) → d'.checkBy gate = d.checkBy gate := by
  intro gate
  refine ⟨?_, fun reason ↦ ⟨fun h ↦ ?_, ?_⟩, fun before p h d' hparts ↦ ?_⟩
  · rw [checkBy_eq_forM, forM_eq_ok_iff]
    exact ⟨fun h p ↦ Part.check_eq_ok_iff_meets.mp (h p p.mem_all),
      fun h p _ ↦ Part.check_eq_ok_iff_meets.mpr (h p)⟩
  · rw [checkBy_eq_forM] at h
    obtain ⟨before, p, after, hall, hbefore, hp⟩ := exists_first_of_forM h
    refine ⟨before, p, ⟨⟨after, by simp [hall]⟩, ?_, fun hmeets ↦ ?_⟩, Part.reports_of_check hp⟩
    · exact fun q hq ↦ Part.check_eq_ok_iff_meets.mp (hbefore q hq)
    · rw [Part.check_eq_ok_iff_meets.mpr hmeets] at hp
      contradiction
  · rintro ⟨before, p, hfirst, hreports⟩
    obtain ⟨reason', hreason'⟩ := hfirst.exists_error
    rw [hfirst.checkBy_eq, hreason', (Part.reports_of_check hreason').unique hreports]
  · have hp : d'.part p = d.part p :=
      hparts p (List.mem_append_right _ (List.mem_singleton_self p))
    rw [h.checkBy_eq, (h.congr hparts).checkBy_eq, hp]

/-- An unknown severity is reported, and that the interval is empty is not. -/
theorem Draft.checkBy_tells_first_of_severity :
    let d : Draft := ⟨"disk_usage", "up", .none, ⟨some "gt", some .zero⟩, "grave", "0s"⟩
    let before : List Part := [.name, .expression, .subhealth, .fault]
    d.FailsFirst PromQL.accepts before .severity ∧ ¬ Part.duration.Meets PromQL.accepts d.duration ∧
      d.check = .error .severity ∧
      ∀ d' : Draft, (∀ q ∈ before ++ [.severity], d'.part q = d.part q) →
        d'.check = .error .severity := by
  intro d before
  have hcheck : d.check = .error .severity := by decide +kernel
  have hfails {p : Part} (h : p.check Expression.check (d.part p) ≠ .ok ()) :
      ¬ p.Meets PromQL.accepts (d.part p) :=
    fun hmeets ↦ h (Part.check_eq_ok_iff_meets.mpr hmeets)
  have hpasses : ∀ q ∈ before, q.check Expression.check (d.part q) = .ok () := by decide +kernel
  have hfirst : d.FailsFirst PromQL.accepts before .severity :=
    ⟨by decide, fun q hq ↦ Part.check_eq_ok_iff_meets.mp (hpasses q hq), hfails (by decide +kernel)⟩
  refine ⟨hfirst, hfails (by decide +kernel), hcheck, fun d' hparts ↦ ?_⟩
  exact ((checkBy_tells_first PromQL.accepts d).2.2 before .severity hfirst d' hparts).trans hcheck

end RuleWatch.Rule
