import RuleWatch.Proofs.Concurrent.Valid
import RuleWatch.Proofs.Service.Request
import RuleWatch.Proofs.Work.Stable

/-!
# Deleted for good

Once a rule has been deleted nothing brings it back: not a change that has read it before, and not a
new rule of its name. The reason is that no id is given twice, so that a deleted rule has gone,
which is stable. What comes to the rule later misses it, and says so.
-/

namespace RuleWatch

open Listing (RuleField)
open Service (Request Yield)

/-- The operation has deleted the rule with this id. -/
def Store.Operation.deletes (id : Int) : (op : Operation) → op.Answer → Bool
  | .deleteRule target, .ok _ => target = id
  | _, _ => false

namespace Deed

/-- The deed has deleted the rule with this id. -/
def deletes (id : Int) : Deed → Bool
  | ⟨.store op, answer⟩ => op.deletes id answer
  | _ => false

variable {id : Int}

theorem eq_of_deletes {d : Deed} (h : d.deletes id) : d = ⟨.store (.deleteRule id), .ok ()⟩ := by
  obtain ⟨s, answer⟩ := d
  cases s with
  | store op =>
    cases op with
    | deleteRule target =>
      cases answer with
      | ok _ =>
        obtain rfl : target = id := of_decide_eq_true h
        rfl
      | error failure => contradiction
    | _ => contradiction
  | _ => contradiction

/-- What is done for a rule that has gone, misses it. -/
theorem misses_of_gone {d : Deed} {world : World} (hdone : d.IsDoneIn world)
    (h : world.store.Gone id) (hd : d.step.rule? = some id) : d.Misses id := by
  obtain ⟨s, answer⟩ := d
  cases s with
  | store op =>
    obtain rfl : answer = (world.store.perform world.clock op).1 := hdone
    exact (Store.misses_perform h.findRule hd).1
  | _ => contradiction

end Deed

/-- A rule that has gone does not come back. -/
theorem World.isStable_gone (id : Int) : IsStable fun world ↦ world.store.Gone id :=
  isStable_of_store (P := fun store ↦ store.Gone id) (fun _ op h ↦ h.perform op)
    fun _ h ↦ ⟨h.le_last, h.findRule⟩

/-- Rules always have ids of their own. -/
theorem World.isStable_keyed : IsStable fun world ↦ world.store.rules.Keyed RuleField :=
  isStable_of_store (P := fun store ↦ store.rules.Keyed RuleField)
    (fun _ op h ↦ Store.keyed_perform h op) fun _ h ↦ h

namespace Crowd

variable {c : Crowd Request (Except Failure Yield)} {id : Int}

/-- A rule has been deleted and has gone, and all that has been done since then. -/
theorem invariant_gone {may : Request → List Deed → Step → Prop} (id : Int) :
    Invariant may fun _ world history ↦ world.store.rules.Keyed RuleField ∧
      ∀ before who deletion after, history = before ++ (who, deletion) :: after →
        deletion.deletes id → world.store.Gone id ∧
          ∀ entry ∈ after, ∃ past : World, past.store.Gone id ∧ entry.2.IsDoneIn past := by
  refine .after World.isStable_keyed (World.isStable_gone id) fun world s hkeyed hdeletes ↦ ?_
  have hdeed := Deed.eq_of_deletes hdeletes
  obtain rfl : s = .store (.deleteRule id) := congrArg Deed.step hdeed
  exact Store.gone_of_deleteRule hkeyed (eq_of_heq (Deed.mk.inj hdeed).2)

/-- A request has failed because a rule was not there, and has not called the detector. -/
def HasMissed (c : Crowd Request (Except Failure Yield)) (place : Nat)
    (result : Except Failure Yield) (id : Int) : Prop :=
  result = .error (.notFound .rule id) ∧ ∀ deed ∈ deedsOf c.history place, deed.step.call? = none

/-- A rule has gone for good with the deletion that was done by `who` between `before` and
`after`. -/
structure IsGone (gate : Expression.Gate) (id : Int) (before : List (Nat × Deed)) (who : Nat)
    (after : List (Nat × Deed)) (c : Crowd Request (Except Failure Yield)) : Prop where
  /-- No rule has the id. -/
  ne_id : ∀ rule ∈ c.world.store.rules.rows, rule.id ≠ id
  /-- A request that has come to the rule since then has missed it, and be it only to write what it
  had made of the rule before. -/
  missed : ∀ place q result, c.members[place]? = some (q, .done result) →
    ∀ deed, (place, deed) ∈ after → deed.step.rule? = some id → c.HasMissed place result id
  /-- A request that needs the rule and has done nothing before has missed it. -/
  later : ∀ place q result, c.members[place]? = some (q, .done result) → place ≠ who →
    deedsOf before place = [] →
      q.Needs id (fun _ ↦ (deedsOf after place).head?.bind Deed.analysis?) →
        c.HasMissed place result id
  /-- A request that needs the rule, served now and without interruption, fails and leaves
  everything as it is. -/
  alone : ∀ q : Request, q.Needs id c.world.store.findAnalysis →
    (q.serve gate).run.run c.world = (.error (.notFound .rule id), c.world)

/-- A request that comes to a rule that has gone has missed it. -/
theorem hasMissed_of_gone {may : Request → List Deed → Step → Prop}
    (h : c.Obeys may fun _ ↦ Work.ReportsMiss) {place : Nat} {q : Request}
    {result : Except Failure Yield} (hdone : c.members[place]? = some (q, .done result))
    {deed : Deed} (hdeed : deed ∈ deedsOf c.history place) (hrule : deed.step.rule? = some id)
    {past : World} (hgone : past.store.Gone id) (hpast : deed.IsDoneIn past) :
    c.HasMissed place result id :=
  h.keeps hdone deed hdeed id (Deed.misses_of_gone hpast hgone hrule)

end Crowd

/-- Whatever requests are served side by side, from a store in which rules have ids of their own,
and in whatever order their steps are done: a rule that has been deleted has gone for good. No step
of a request takes an analysis result away, unless the request is there to delete one. -/
theorem gone_of_deletes (gate : Expression.Gate) {world : World}
    (h : world.store.rules.Keyed RuleField) (events : List (Crowd.Event Request)) :
    let serve := fun q : Request ↦ (q.serve gate).run
    let crowd := (Crowd.start world).run serve events
    (∀ id before who deletion after, crowd.history = before ++ (who, deletion) :: after →
      deletion.deletes id → crowd.IsGone gate id before who after) ∧
    ∀ place q, crowd.requests[place]? = some q → (∀ id, q ≠ .change (.deleteAnalysis id)) →
      (crowd.next serve (.turn place)).world.store.analyses = crowd.world.store.analyses := by
  intro serve crowd
  constructor
  · intro id before who deletion after hhistory hdeletes
    have hreports : crowd.Obeys (fun _ _ _ ↦ True) fun _ ↦ Work.ReportsMiss :=
      (Crowd.obeys_start world).run (Request.keeps_reportsMiss gate) events
    obtain ⟨-, hafter⟩ := (Crowd.invariant_gone id).run (Request.keeps_reportsMiss gate)
      ⟨h, by simp⟩ events
    obtain ⟨hgone, hlater⟩ := hafter before who deletion after hhistory hdeletes
    have hmissed : ∀ place q result, crowd.members[place]? = some (q, .done result) →
        ∀ deed, (place, deed) ∈ after → deed.step.rule? = some id →
          crowd.HasMissed place result id := by
      intro place q result hdone deed hdeed hrule
      obtain ⟨past, hpast, hdone'⟩ := hlater (place, deed) hdeed
      have hmem : deed ∈ Crowd.deedsOf crowd.history place :=
        Crowd.mem_deedsOf.mpr (by simp [hhistory, hdeed])
      exact Crowd.hasMissed_of_gone hreports hdone hmem hrule hpast hdone'
    constructor
    case ne_id => exact fun rule hrule ↦ hgone.ne_id hrule
    case missed => exact hmissed
    case later =>
      intro place q result hdone hne hbefore hneeds
      have hobeys : crowd.Obeys (fun _ _ _ ↦ True) fun (q : Request) deeds _ ↦
          ∀ id, q.Needs id (fun _ ↦ deeds.head?.bind Deed.analysis?) →
            ∃ d ∈ deeds, d.step.rule? = some id :=
        (Crowd.obeys_start world).run (Request.keeps_needs gate) events
      -- all that the request has done it has done since then
      have hdeeds : Crowd.deedsOf crowd.history place = Crowd.deedsOf after place := by
        rw [hhistory, Crowd.deedsOf_append, hbefore]
        simp [Crowd.deedsOf, hne.symm]
      obtain ⟨deed, hdeed, hrule⟩ := hobeys.keeps hdone id (by rwa [hdeeds])
      rw [hdeeds] at hdeed
      exact hmissed place q result hdone deed (Crowd.mem_deedsOf.mp hdeed) hrule
    case alone => exact fun q hneeds ↦ Request.run_of_needs hgone.findRule hneeds
  · intro place q hrequest hq
    have hobeys : crowd.Obeys Request.May fun _ _ _ ↦ True :=
      (Crowd.obeys_start world).run (Request.keeps_serve gate) events
    obtain heq | ⟨request, s, rest, hplace⟩ := Crowd.next_turn_cases serve crowd place
    · rw [heq]
    · rw [Crowd.next_turn hplace]
      obtain rfl : request = q := by simpa [Crowd.requests, hplace] using hrequest
      exact (hobeys.keeps hplace).1.analyses_perform hq

namespace LateWrite

/-- A rule is made, and the detector records an episode of it. Then the rule is to be raised and to
be deleted at the same time, and the change comes too late. A new rule takes the name, and somebody
asks for the old one and for the metrics of its episode. -/
def events : List (Crowd.Event Request) :=
  [.arrival (.change (.createRule StaleWrite.disk)), .turn 0,
    .episode ⟨1, "disk", "fault", 1, 0, 60⟩,
    .arrival (.change (.updateRule 1 StaleWrite.raise)), .arrival (.change (.deleteRule 1)),
    .turn 1, .turn 2, .turn 1,
    .arrival (.change (.createRule StaleWrite.disk)), .turn 3,
    .arrival (.rule 1), .turn 4, .arrival (.metrics 1), .turn 5, .turn 5]

end LateWrite

open StaleWrite LateWrite in
/-- The rule of the same name has another id, and the episode is kept. -/
theorem gone_of_lateWrite :
    let serve := fun q : Request ↦ (q.serve gate).run
    let crowd := (Crowd.start world).run serve LateWrite.events
    world.store.rules.Keyed RuleField ∧
      (crowd.world.store.rules.rows.map fun rule ↦ (rule.id, rule.name)) = [(2, "disk")] ∧
      (crowd.world.store.analyses.rows.map fun analysis ↦ analysis.ruleId) = [1] ∧
      (crowd.members.map fun member ↦ match member.2 with
        | .done (.error failure) => failure.message
        | _ => "") =
        ["", "Engine: rule not found (id=1)", "", "", "Engine: rule not found (id=1)",
          "Engine: rule not found (id=1)"] ∧
      ∃ before who deletion after, crowd.history = before ++ (who, deletion) :: after ∧
        deletion.deletes 1 ∧ crowd.IsGone gate 1 before who after := by
  intro serve crowd
  have hkeyed : world.store.rules.Keyed RuleField := .of_rows_eq_nil rfl
  have hdeleted : (crowd.history.any fun entry ↦ entry.2.deletes 1) = true := by decide +kernel
  obtain ⟨⟨who, deletion⟩, hmem, hdeletes⟩ := List.any_eq_true.mp hdeleted
  obtain ⟨before, after, hhistory⟩ := List.append_of_mem hmem
  exact ⟨hkeyed, by decide +kernel, by decide +kernel, by decide +kernel,
    before, who, deletion, after, hhistory, hdeletes,
    (gone_of_deletes gate hkeyed LateWrite.events).1 1 before who deletion after hhistory hdeletes⟩

end RuleWatch
