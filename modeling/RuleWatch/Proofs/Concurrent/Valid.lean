import RuleWatch.Proofs.Service.Sound
import RuleWatch.Proofs.Work.Crowd

/-!
# Stored rules stay valid

A request to change a rule reads it, checks what it would become, and writes the parts that it
names. Between the reading and the writing other requests may have changed the rule, so the rule
that has been checked is not the one that is there after the write. It is valid all the same, since
each part is checked for itself and changes as a whole: the invariant is `Store.Sound`, and each
step that a request may do keeps it.
-/

namespace RuleWatch

open Service (Mutation)

namespace Crowd

variable {gate : Expression.Gate}

/-- No step of a request, and nothing else that happens, makes a sound store unsound. -/
theorem invariant_sound :
    Invariant (Mutation.May gate) fun _ world _ ↦ world.store.Sound gate where
  arrival _ h := h
  clock _ h := h
  episode _ h := h.of_rules_eq rfl
  step _ hmay h := hmay.sound_perform h

end Crowd

/-! ## A write that comes late -/

namespace StaleWrite

/-- A world in which nothing has happened yet, with a detector that never answers. -/
def world : World :=
  .fresh 0 Detector.silent fun _ ↦ .replicate drawLength 0

/-- A gate that lets every expression pass. -/
def gate : Expression.Gate := fun _ ↦ .ok ()

def disk : Rule.Draft where
  name := "disk"
  expression := "disk_usage"
  subhealth := .none
  fault := ⟨some "gt", some (.ofInt 80)⟩
  severity := "error"
  duration := "5m"

/-- The rule is raised to another threshold, and at the same time renamed and turned into a rule for
values that are too low. -/
def raise : Rule.Changes :=
  { Rule.Changes.none with fault := ⟨none, some (.ofInt 90)⟩ }

/-- See `raise`. -/
def turn : Rule.Changes :=
  { Rule.Changes.none with name := some "spare", fault := ⟨some "lt", none⟩ }

/-- The first request reads the rule, the second reads and writes it, and then the first writes. -/
def events : List (Crowd.Event Mutation) :=
  [.arrival (.createRule disk), .turn 0, .arrival (.updateRule 1 raise),
    .arrival (.updateRule 1 turn), .turn 1, .turn 2, .turn 2, .turn 1]

end StaleWrite

/-- Whatever requests are served side by side, from a store without rules, and in whatever order
their steps are done: at every point each stored rule passes the check, its conditions are whole or
not there at all, and no two rules have one name. -/
theorem rules_valid_of_run (gate : Expression.Gate) {world : World}
    (h : world.store.rules.rows = []) (events : List (Crowd.Event Mutation)) :
    let crowd := (Crowd.start world).run (fun q ↦ (q.serve gate).run) events
    let rules := crowd.world.store.rules.rows
    (∀ rule ∈ rules,
      rule.toDraft.checkBy gate = .ok () ∧ rule.subhealth.IsPair ∧ rule.fault.IsPair) ∧
    (rules.map fun rule ↦ rule.name).Nodup := by
  intro crowd rules
  have hsound : crowd.world.store.Sound gate :=
    Crowd.invariant_sound.run (Mutation.keeps_serve gate) (.of_rows_eq_nil h) events
  refine ⟨fun rule hrule ↦ ?_, hsound.nodup_names⟩
  have hparts := hsound.drafts rule hrule
  exact ⟨hparts.checkBy_eq, hparts .subhealth, hparts .fault⟩

open StaleWrite in
/-- The late write takes the whole condition from what its request has read, and not only the
threshold that it names. -/
theorem rules_valid_of_staleWrite :
    let crowd := (Crowd.start world).run (fun q ↦ (q.serve gate).run) events
    let rules := crowd.world.store.rules.rows
    world.store.rules.rows = [] ∧
      (rules.map fun rule ↦ (rule.name, rule.fault)) =
        [("spare", ⟨some "gt", some (.ofInt 90)⟩)] ∧
      (∀ rule ∈ rules,
        rule.toDraft.checkBy gate = .ok () ∧ rule.subhealth.IsPair ∧ rule.fault.IsPair) ∧
      (rules.map fun rule ↦ rule.name).Nodup :=
  ⟨rfl, by decide +kernel, rules_valid_of_run gate rfl events⟩

end RuleWatch
