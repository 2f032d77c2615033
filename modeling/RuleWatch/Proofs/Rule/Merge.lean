import RuleWatch.Proofs.Rule.Part

/-!
# Merging changes again

What has become of a rule under changes stays as it is under the same changes
(`Rule.merged_merged`). This is so, too, when the database has had the rule in between and has given
back what it keeps of the thresholds, so that a second write does nothing (`Rule.writeParts_again`).
Changes that give everything leave nothing of the rule that was there (`Rule.merged_ofDraft`).
-/

namespace RuleWatch

open Store (storedCondition storedDraft storedThreshold writeParts)

/-! ## Conditions -/

namespace Condition

variable {c changes : Condition}

/-- A condition stays as it is, unless its kind is absent or empty. -/
theorem normalize_cases (c : Condition) :
    c.kind.getD "" = "" ∧ c.normalize = none ∨ c.kind.getD "" ≠ "" ∧ c.normalize = c := by
  obtain ⟨_ | kind, threshold⟩ := c
  · exact .inl ⟨rfl, rfl⟩
  · by_cases hkind : kind = "" <;> simp [normalize, String.isEmpty_iff, hkind]

theorem normalize_eq_none (h : c.kind.getD "" = "") : c.normalize = none :=
  (normalize_cases c).elim And.right fun hsome ↦ absurd h hsome.1

theorem normalize_normalize (c : Condition) : c.normalize.normalize = c.normalize := by
  obtain ⟨-, h⟩ | ⟨-, h⟩ := normalize_cases c <;> rw [h]
  · rfl
  · exact h

/-- A threshold without a condition is not checked, so that it may as well be dropped. -/
theorem isComplete_normalize (c : Condition) :
    Rule.isComplete c.normalize = Rule.isComplete c := by
  obtain ⟨_ | kind, threshold⟩ := c
  · rfl
  · by_cases hkind : kind.isEmpty <;> simp [normalize, hkind, none, Rule.isComplete]

theorem none_merge (changes : Condition) : none.merge changes = changes.normalize := by
  cases changes
  simp [merge, none]

/-- Changes that have been merged are there already, or they have made an end of the condition. -/
theorem merge_merge (c changes : Condition) :
    (c.merge changes).merge changes = c.merge changes := by
  obtain ⟨kind, threshold⟩ := changes
  obtain ⟨hkind, h⟩ | ⟨-, h⟩ := normalize_cases ⟨kind.or c.kind, threshold.or c.threshold⟩
  all_goals rw [merge, merge, h]
  · change none.merge ⟨kind, threshold⟩ = none
    rw [none_merge, normalize_eq_none]
    cases kind with
    | none => rfl
    | some kind => exact hkind
  · simp only [← Option.or_assoc, Option.or_self, h]

/-! ### As the database gives it back -/

/-- What a column has given back, it gives back again. -/
theorem storedThreshold_bind (d : Double) :
    (storedThreshold d).bind storedThreshold = storedThreshold d := by
  rw [storedThreshold]
  split
  · rfl
  split
  · decide
  next hnan hzero => rw [Option.bind_some, storedThreshold, if_neg hnan, if_neg hzero]

theorem stored_normalize (c : Condition) :
    storedCondition c.normalize = (storedCondition c).normalize := by
  obtain ⟨_ | kind, threshold⟩ := c
  · rfl
  · by_cases hkind : kind.isEmpty <;> simp [normalize, hkind, none, storedCondition]

/-- It does not matter that a threshold has been in the database before. -/
theorem stored_merge_stored (c changes : Condition) :
    storedCondition ((storedCondition c).merge changes) = storedCondition (c.merge changes) := by
  rw [merge, merge, stored_normalize, stored_normalize]
  cases hthreshold : changes.threshold with
  | none => simp [storedCondition, Option.bind_assoc, storedThreshold_bind]
  | some d => rfl

/-! ### Whole conditions -/

/-- A condition that gives both halves, where an absent kind is given as an empty one. -/
def given (c : Condition) : Condition :=
  ⟨some (c.kind.getD ""), c.threshold⟩

/-- A whole condition takes the place of any other: if it has a kind, it has a threshold too. -/
theorem merge_given (h : Rule.isComplete c.normalize) (current : Condition) :
    current.merge c.given = c.normalize := by
  have hpair : c.normalize.IsPair := isPair_normalize h
  obtain ⟨hkind, hnone⟩ | ⟨hkind, hsame⟩ := normalize_cases c
  · rw [hnone]
    exact normalize_eq_none hkind
  · rw [hsame] at hpair ⊢
    obtain rfl | ⟨kind, threshold, rfl, -, -⟩ := hpair
    · contradiction
    · exact hsame

end Condition

/-! ## Rules -/

namespace Rule

variable {gate : Expression.Gate} {rule : Rule} {changes : Changes} {d d' : Draft} {now later : Int}

/-- The rule with other parts. -/
def withDraft (rule : Rule) (d : Draft) : Rule :=
  { rule with toDraft := d }

/-- Changes that have been merged into a rule change nothing more. -/
theorem merged_merged (rule : Rule) (changes : Changes) :
    (rule.withDraft (rule.merged changes)).merged changes = rule.merged changes := by
  have hgetD (o : Option String) (s : String) : o.getD (o.getD s) = o.getD s := by
    cases o <;> rfl
  simp only [merged, withDraft, hgetD, Condition.merge_merge]

/-- What is kept of changes that are made again is what was kept of them. -/
theorem storedDraft_merged_stored (rule : Rule) (changes : Changes) :
    storedDraft ((rule.withDraft (storedDraft (rule.merged changes))).merged changes) =
      storedDraft (rule.merged changes) := by
  have hstored (d : Draft) : storedDraft ((rule.withDraft (storedDraft d)).merged changes) =
      storedDraft ((rule.withDraft d).merged changes) := by
    simp only [storedDraft, merged, withDraft, Condition.stored_merge_stored]
  rw [hstored, merged_merged]

/-- The check does not mind that the database has had the draft in between. -/
theorem checkBy_merged_stored (h : d.IsSound gate) (rule : Rule) (changes : Changes) :
    ((rule.withDraft (storedDraft d)).merged changes).checkBy gate =
      ((rule.withDraft d).merged changes).checkBy gate := by
  refine Draft.checkBy_eq_of_alike fun p ↦ ?_
  cases p with
  | subhealth => exact (h .subhealth).stored.2.merge changes.subhealth
  | fault => exact (h .fault).stored.2.merge changes.fault
  | _ => exact .inl rfl

/-! ### Writing again -/

section Written

variable {row : Rule} (hrow : row = writeParts rule changes (storedDraft (rule.merged changes)) now)
include hrow

/-- Under the same changes, a row becomes what it would become if all parts had been written. -/
theorem part_merged_written {p : Part} : (row.merged changes).part p =
    if changes.names p then
      ((rule.withDraft (storedDraft (rule.merged changes))).merged changes).part p
    else (rule.merged changes).part p := by
  have hpart : row.part p =
      if changes.names p then (storedDraft (rule.merged changes)).part p else rule.part p := by
    rw [hrow, part_writeParts]
  split
  next hp => exact part_merged_congr (hpart.trans (if_pos hp))
  next hp => exact part_merged_congr (hpart.trans (if_neg hp))

/-- Changes that have been written once pass the check once more. -/
theorem checkBy_again (h : (rule.merged changes).checkBy gate = .ok ()) :
    (row.merged changes).checkBy gate = .ok () := by
  rw [Draft.checkBy_eq_ok_iff]
  intro p
  rw [part_merged_written hrow]
  split
  · have hall : ((rule.withDraft (storedDraft (rule.merged changes))).merged changes).checkBy gate =
        .ok () := by
      rw [checkBy_merged_stored (isSound_merged h), merged_merged, h]
    exact Draft.checkBy_eq_ok_iff.mp hall p
  · exact Draft.checkBy_eq_ok_iff.mp h p

/-- Changes that are written twice in a row do nothing the second time, but for the time. -/
theorem writeParts_again :
    writeParts row changes (storedDraft (row.merged changes)) later =
      { row with updatedAt := later } := by
  refine eq_of_part_eq (fun p ↦ ?_) rfl rfl
  rw [part_writeParts]
  split
  next hp =>
    have hmerged := (part_merged_written hrow (p := p)).trans (if_pos hp)
    rw [part_storedDraft_congr hmerged, storedDraft_merged_stored, hrow, part_writeParts, if_pos hp]
  next => rfl

end Written

/-! ### Giving everything -/

/-- Changes that give all that is in a draft. -/
def Changes.ofDraft (d : Draft) : Changes where
  name := some d.name
  expression := some d.expression
  subhealth := d.subhealth.given
  fault := d.fault.given
  severity := some d.severity
  duration := some d.duration

namespace Draft

theorem normalize_normalize (d : Draft) : d.normalize.normalize = d.normalize := by
  simp only [normalize, Condition.normalize_normalize]

/-- What normalizing drops has not been checked. -/
theorem checkBy_normalize (d : Draft) : d.normalize.checkBy gate = d.checkBy gate := by
  refine checkBy_congr fun p ↦ ?_
  cases p with
  | subhealth | fault => exact congrArg (demand · _) (Condition.isComplete_normalize _)
  | _ => rfl

end Draft

/-- Changes that give a whole draft make that draft of any rule. -/
theorem merged_ofDraft (h : d.normalize.checkBy gate = .ok ()) (rule : Rule) :
    rule.merged (.ofDraft d) = d.normalize := by
  have hpasses := Draft.checkBy_eq_ok_iff.mp h
  simp only [merged, Changes.ofDraft, Option.getD_some, Draft.normalize,
    Condition.merge_given (hpasses .subhealth), Condition.merge_given (hpasses .fault)]

/-- Changes that give a whole draft write all of it. -/
theorem toDraft_writeParts_ofDraft :
    (writeParts rule (.ofDraft d) d' now).toDraft = d' := rfl

end Rule

end RuleWatch
