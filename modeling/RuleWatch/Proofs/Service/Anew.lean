import RuleWatch.Proofs.Service.Again

/-!
# Rules made over

A change that gives a whole draft makes a rule over: what is kept is what would be kept if the rule
had never been there and were made of the draft (`Service.Rules.update_ofDraft`).
-/

namespace RuleWatch.Service.Rules

open Rule (Draft)
open Store (isFree_iff storedDraft)

variable {gate : Expression.Gate} {draft : Draft} {world without : World} {rule : Rule}

/-- A rule is made of a draft, and that succeeds if the detector acknowledges it. -/
structure IsMade (gate : Expression.Gate) (draft : Draft) (world : World) (rule : Rule) : Prop where
  result : ∃ answer, ((create gate draft).run.run world).1 = announced rule.id answer rule
  /-- The rule comes after all others, and nothing else is changed. -/
  store : ((create gate draft).run.run world).2.store =
    { world.store with rules := world.store.rules.push rule }

/-- A rule is made of a draft that passes the check, if no rule has its name. -/
theorem exists_isMade (hcheck : draft.normalize.checkBy gate = .ok ())
    (hname : ∀ other ∈ world.store.rules.rows, other.name ≠ draft.name) :
    ∃ rule : Rule, rule.toDraft = storedDraft draft.normalize ∧ IsMade gate draft world rule := by
  obtain ⟨reason, herror, -⟩ | ⟨-, htaken, -⟩ |
    ⟨-, -, rule, answer, after, hrule, -, -, -, hrun, hstore⟩ := run_create_cases gate draft world
  · simp [hcheck] at herror
  · exact absurd (isFree_iff.mpr fun other hother _ ↦ hname other hother) htaken
  · refine ⟨rule, hrule, ⟨answer, ?_⟩, ?_⟩ <;> rw [hrun]
    exact hstore

/-- A rule is made over by changes that give a draft that passes the check, if no other rule has its
name. -/
theorem exists_isKept_ofDraft (hcheck : draft.normalize.checkBy gate = .ok ())
    (hrule : rule ∈ world.store.rules.rows)
    (hname : ∀ other ∈ world.store.rules.rows, other.id ≠ rule.id → other.name ≠ draft.name) :
    ∃ row : Rule, row.toDraft = storedDraft draft.normalize ∧
      IsKept gate rule.id (.ofDraft draft) world row := by
  have hsome : (world.store.findRule rule.id).isSome :=
    List.find?_isSome.mpr ⟨rule, hrule, by simp [Listing.Column.id]⟩
  obtain ⟨old, hold⟩ := Option.isSome_iff_exists.mp hsome
  have hmerged := Rule.merged_ofDraft hcheck old
  refine ⟨_, ?_, isKept_of_checkBy hold (hmerged ▸ hcheck) rfl (isFree_iff.mpr hname)⟩
  rw [hmerged]
  exact Rule.toDraft_writeParts_ofDraft

/-- A change that gives a whole draft is kept, if the draft passes the check and no other rule has
its name, and whatever the rule was before, it is the rule that is made of the draft where there is
no such rule. Normalizing a draft once more changes nothing, and the check says the same of a draft
whether it is normalized or not. -/
theorem update_ofDraft (gate : Expression.Gate) :
    (∀ (draft : Draft) (world without : World), ∀ rule ∈ world.store.rules.rows,
      draft.normalize.checkBy gate = .ok () →
      (∀ other ∈ world.store.rules.rows, other.id ≠ rule.id → other.name ≠ draft.name) →
      without.store = (world.store.deleteRule rule.id).2 →
        ∃ row new : Rule, IsKept gate rule.id (.ofDraft draft) world row ∧
          IsMade gate draft without new ∧ row.toDraft = new.toDraft) ∧
    ∀ draft : Draft, draft.normalize.normalize = draft.normalize ∧
      draft.normalize.checkBy gate = draft.checkBy gate := by
  refine ⟨fun draft world without rule hrule hcheck hname hwithout ↦ ?_, fun draft ↦
    ⟨draft.normalize_normalize, draft.checkBy_normalize⟩⟩
  obtain ⟨row, hrow, hkept⟩ := exists_isKept_ofDraft hcheck hrule hname
  have hfree : ∀ other ∈ without.store.rules.rows, other.name ≠ draft.name := by
    intro other hother
    obtain ⟨hmem, hne⟩ := Store.mem_deleteRule (hwithout ▸ hother)
    exact hname other hmem hne
  obtain ⟨new, hnew, hmade⟩ := exists_isMade hcheck hfree
  exact ⟨row, new, hkept, hmade, hrow.trans hnew.symm⟩

/-- A condition goes that the draft does not have, though it has a threshold, and another comes. -/
theorem update_ofDraft_of_disk :
    let condition (kind : Option String) : Condition := ⟨kind, some Double.zero⟩
    let old : Draft := ⟨"disk", "disk_usage", .none, condition (some ">"), "error", "5m"⟩
    let draft : Draft :=
      ⟨"disk", "disk_usage", condition (some "<"), condition none, "warning", "1h"⟩
    let world := ((create Expression.check old).run.run
      (.fresh 0 Detector.silent fun _ ↦ .replicate drawLength 0)).2
    let without : World := { world with store := (world.store.deleteRule 1).2 }
    let after := ((update Expression.check 1 (.ofDraft draft)).run.run world).2
    (after.store.rules.rows.map fun rule ↦ (rule.subhealth, rule.fault)) =
        [(condition (some "<"), Condition.none)] ∧
      ∃ row new : Rule, IsKept Expression.check 1 (.ofDraft draft) world row ∧
        IsMade Expression.check draft without new ∧ row.toDraft = new.toDraft := by
  intro condition old draft world without after
  have hsome : (world.store.findRule 1).isSome := by decide +kernel
  obtain ⟨rule, hrule⟩ := Option.isSome_iff_exists.mp hsome
  have hid : rule.id = 1 := Store.id_of_findRule hrule
  have hothers : ∀ other ∈ world.store.rules.rows, other.id = 1 := by decide +kernel
  refine ⟨by decide +kernel, hid ▸ (update_ofDraft Expression.check).1 draft world without rule
    (Store.mem_of_findRule hrule) (by decide +kernel) (fun other hother hne ↦ ?_) (hid ▸ rfl)⟩
  exact absurd ((hothers other hother).trans hid.symm) hne

end RuleWatch.Service.Rules
