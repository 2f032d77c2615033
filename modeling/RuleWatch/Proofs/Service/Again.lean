import RuleWatch.Proofs.Api.Reachable
import RuleWatch.Proofs.Rule.Merge
import RuleWatch.Proofs.Service.Run
import RuleWatch.Proofs.Service.Update
import RuleWatch.Proofs.Store.Apart

/-!
# Changes made twice

A change that has been kept is kept again when it is made once more, and all that comes of it is the
new time of the last change (`Service.Rules.update_again`).
-/

namespace RuleWatch.Service.Rules

open Listing
open Rule (Changes)
open Store (isFree storedDraft writeParts)

variable {gate : Expression.Gate} {id : Int} {changes : Changes} {world : World} {rule row : Rule}

/-- A change is kept with this row for a result, and succeeds if the detector acknowledges it. -/
structure IsKept (gate : Expression.Gate) (id : Int) (changes : Changes) (world : World)
    (row : Rule) : Prop where
  result : ∃ answer, ((update gate id changes).run.run world).1 = announced id answer row
  /-- The row stands in the place of the rule, and nothing else is changed. -/
  store : ((update gate id changes).run.run world).2.store =
    { world.store with rules := world.store.rules.replace RuleField row }
  found : ((update gate id changes).run.run world).2.store.findRule id = some row

/-- A change is kept if it passes the check and no other rule has the name that is written. -/
theorem isKept_of_checkBy (hfound : world.store.findRule id = some rule)
    (hcheck : (rule.merged changes).checkBy gate = .ok ())
    (hrow : row = writeParts rule changes (storedDraft (rule.merged changes)) world.clock)
    (hfree : isFree world.store.rules.rows row.name id) : IsKept gate id changes world row := by
  obtain ⟨hnone, -⟩ | ⟨old, hold, hcases⟩ := run_update_cases gate id changes world
  · simp [hfound] at hnone
  obtain rfl := Option.some.inj (hfound.symm.trans hold)
  obtain ⟨reason, herror, -⟩ | ⟨new, -, hnew, hcases⟩ := hcases
  · simp [hcheck] at herror
  obtain rfl := hnew.trans hrow.symm
  obtain ⟨htaken, -⟩ | ⟨-, answer, after, hrun, hstore⟩ := hcases
  · exact absurd hfree htaken
  have hid : new.id = id := calc
    new.id = rule.id := by rw [hrow]; rfl
    _ = id := Store.id_of_findRule hfound
  refine ⟨⟨answer, ?_⟩, ?_, ?_⟩ <;> rw [hrun]
  · rw [hid]
  · exact hstore
  · rw [hstore]
    exact Store.findRule_replace hfound hid

/-- A change that is not refused has passed the check, and no other rule has the name. -/
theorem exists_of_refusal?_eq_none
    (h : refusal? ((update gate id changes).run.run world).1 = none) :
    ∃ rule : Rule, world.store.findRule id = some rule ∧
      (rule.merged changes).checkBy gate = .ok () ∧
      isFree world.store.rules.rows
        (writeParts rule changes (storedDraft (rule.merged changes)) world.clock).name id := by
  obtain ⟨-, hrun⟩ | ⟨rule, hfound, ⟨reason, -, hrun⟩ |
      ⟨new, hcheck, rfl, ⟨-, hrun⟩ | ⟨hfree, -⟩⟩⟩ :=
    run_update_cases gate id changes world
  · simp [hrun, refusal?] at h
  · simp [hrun, refusal?] at h
  · simp [hrun, refusal?_ofStore] at h
  · exact ⟨rule, hfound, hcheck, hfree⟩

/-- A change that is not refused is kept, and it is kept again if it is made once more, at whatever
time and whatever the detector answers: then nothing is changed but the time of the last change. In
particular, what has become of a rule under changes is what becomes of it under them. -/
theorem update_again (gate : Expression.Gate) :
    (∀ (id : Int) (changes : Changes) (world : World),
      refusal? ((update gate id changes).run.run world).1 = none →
        ∃ row : Rule, IsKept gate id changes world row ∧
          ∀ again : World, again.store = ((update gate id changes).run.run world).2.store →
            IsKept gate id changes again { row with updatedAt := again.clock }) ∧
    ∀ (rule : Rule) (changes : Changes),
      (rule.withDraft (rule.merged changes)).merged changes = rule.merged changes := by
  refine ⟨fun id changes world h ↦ ?_, Rule.merged_merged⟩
  obtain ⟨rule, hfound, hcheck, hfree⟩ := exists_of_refusal?_eq_none h
  obtain ⟨row, hrow⟩ : ∃ row, row =
      writeParts rule changes (storedDraft (rule.merged changes)) world.clock := ⟨_, rfl⟩
  rw [← hrow] at hfree
  have hkept := isKept_of_checkBy hfound hcheck hrow hfree
  refine ⟨row, hkept, fun again hagain ↦ ?_⟩
  refine isKept_of_checkBy (hagain ▸ hkept.found) (Rule.checkBy_again hrow hcheck)
    (Rule.writeParts_again hrow).symm ?_
  -- the other rules are those that the first change has met
  rw [hagain, hkept.store, (Store.agreesBut_replace (Store.id_of_findRule hkept.found)).isFree_eq]
  exact hfree

/-- A rule gets another name and a condition on a negative zero, which the database gives back
without its sign. The detector is silent both times. -/
theorem update_again_of_rename :
    let empty : World := .fresh 0 Detector.silent fun _ ↦ .replicate drawLength 0
    let server : Server := ⟨0⟩
    let world := ((Crowd.start empty).run server.serve
      [.arrival Server.makeDisk, .turn 0, .turn 0]).world
    let changes : Changes :=
      { Changes.none with name := some "spare", fault := ⟨some ">", some Double.zero.neg⟩ }
    let first := (update Expression.check 1 changes).run.run world
    let again : World := { first.2 with clock := 60 }
    server.Reaches world.store ∧ refusal? first.1 = none ∧
      (first.2.store.rules.rows.map fun rule ↦ (rule.name, rule.fault)) =
        [("spare", ⟨some ">", some Double.zero⟩)] ∧
      ∃ row : Rule, IsKept Expression.check 1 changes world row ∧
        IsKept Expression.check 1 changes again { row with updatedAt := 60 } := by
  intro empty server world changes first again
  have hkept : refusal? first.1 = none := by decide +kernel
  obtain ⟨row, hfirst, hagain⟩ := (update_again Expression.check).1 1 changes world hkept
  exact ⟨⟨empty, _, rfl, rfl⟩, hkept, by decide +kernel, row, hfirst, hagain again rfl⟩

end RuleWatch.Service.Rules
