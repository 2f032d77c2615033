import RuleWatch.Proofs.Store.Operation
import RuleWatch.Proofs.Work.Deed

/-!
# Effects

The deeds that others can notice: a row has changed, or the detector was told that the rules have
changed. All other deeds leave the store as it is.

* `Work.IsQuiet.keeps`: work whose steps are all quiet has no effects.
* `Work.store_run`: work that changes no row leaves the store as it was.
* `Work.store_run_of_effects`: work that changes one row leaves the store as that change leaves it.
-/

namespace RuleWatch

open Store (Entity)

namespace Deed

/-- The row that the deed has changed, if any. -/
def changed? : Deed → Option (Entity × Int)
  | ⟨.store op, answer⟩ => op.changed? answer
  | _ => none

/-- The deed tells the detector that the rules have changed. -/
def announces (d : Deed) : Bool :=
  d.step.call?.any fun call ↦ call.path == Detector.ruleSetChanged.path

/-- The deed can be noticed by others. -/
def isEffect (d : Deed) : Bool :=
  d.changed?.isSome || d.announces

theorem changed?_eq_none {d : Deed} (h : d.isEffect = false) : d.changed? = none := by
  rw [isEffect, Bool.or_eq_false_iff] at h
  exact Option.not_isSome_iff_eq_none.mp (by simp [h.1])

end Deed

/-- The effects among the deeds, in their order. -/
def effects (deeds : List Deed) : List Deed :=
  deeds.filter Deed.isEffect

@[simp] theorem effects_nil : effects [] = [] := rfl

@[simp] theorem effects_append {deeds deeds' : List Deed} :
    effects (deeds ++ deeds') = effects deeds ++ effects deeds' :=
  List.filter_append ..

@[simp] theorem effects_cons_of_isEffect {d : Deed} {deeds : List Deed} (h : d.isEffect) :
    effects (d :: deeds) = d :: effects deeds :=
  List.filter_cons_of_pos h

/-- The requests among others that tell the detector that the rules have changed. -/
def announcements (calls : List Detector.Call) : List Detector.Call :=
  calls.filter fun call ↦ call.path == Detector.ruleSetChanged.path

/-- Announcements are effects. -/
theorem announcements_eq (deeds : List Deed) :
    announcements (deeds.filterMap fun d ↦ d.step.call?) =
      announcements ((effects deeds).filterMap fun d ↦ d.step.call?) := by
  rw [announcements, announcements, effects, List.filterMap_filter, List.filter_filterMap,
    List.filter_filterMap]
  congr 1
  funext d
  cases heffect : d.isEffect with
  | true => rw [if_pos rfl]
  | false =>
    rw [Deed.isEffect, Bool.or_eq_false_iff, Deed.announces] at heffect
    cases hcall : d.step.call? with
    | none => rfl
    | some call =>
      have hother : (call.path == Detector.ruleSetChanged.path) = false := by
        simpa [hcall] using heffect.2
      rw [Option.filter_some, hother]
      rfl

/-- A step that has no effect, whatever comes back from it. -/
def Step.isQuiet : Step → Bool
  | .store op =>
    match op with
    | .insertRule _ | .updateRule .. | .deleteRule _ | .deleteAnalysis _ => false
    | _ => true
  | .ask call => call.path != Detector.ruleSetChanged.path
  | _ => true

@[simp] theorem Step.isQuiet_log {event : Journal.Event} : (log event).isQuiet := by
  simp only [isQuiet]

@[simp] theorem Step.isQuiet_findRule {id : Int} : (store (.findRule id)).isQuiet := by
  simp only [isQuiet]

theorem Step.isEffect_of_isQuiet {s : Step} (h : s.isQuiet) (answer : s.Answer) :
    (⟨s, answer⟩ : Deed).isEffect = false := by
  cases s with
  | store op => cases op <;> first | rfl | contradiction
  | ask call => simpa [isQuiet, Deed.isEffect, Deed.changed?, Deed.announces, call?] using h
  | _ => rfl

@[simp] theorem effects_cons_of_isQuiet {s : Step} {answer : s.Answer} {deeds : List Deed}
    (h : s.isQuiet) : effects (⟨s, answer⟩ :: deeds) = effects deeds :=
  List.filter_cons_of_neg (Bool.eq_false_iff.mp (Step.isEffect_of_isQuiet h answer))

/-- A refused operation changes nothing, and neither does one that only looks. -/
theorem World.store_perform_of_changed? {world : World} {s : Step}
    (h : (⟨s, (world.perform s).1⟩ : Deed).changed? = none) :
    (world.perform s).2.store = world.store := by
  cases s with
  | store op => exact Store.perform_of_changed?_eq_none h
  | _ => rfl

/-- Only the world around moves the clock. -/
theorem World.clock_perform (world : World) (s : Step) :
    (world.perform s).2.clock = world.clock := by
  cases s <;> rfl

namespace Work

variable {α β : Type} {work : Work α}

/-! ## Quiet work -/

/-- No step of the work has an effect. -/
def IsQuiet (work : Work α) : Prop :=
  ∀ deeds, work.Keeps (fun _ s ↦ s.isQuiet) (fun _ _ ↦ True) deeds

theorem IsQuiet.pure {a : α} : (pure a : Work α).IsQuiet := fun _ ↦ trivial

theorem IsQuiet.perform {s : Step} (h : s.isQuiet) : (Work.perform s).IsQuiet :=
  fun _ ↦ ⟨h, fun _ ↦ trivial⟩

theorem IsQuiet.bind {f : α → Work β} (h : work.IsQuiet) (hf : ∀ a, (f a).IsQuiet) :
    (work >>= f).IsQuiet := by
  intro deeds
  rw [keeps_bind]
  exact (h deeds).imp fun deeds a _ ↦ hf a deeds

theorem IsQuiet.run_pure {a : α} : (Pure.pure a : Attempt α).run.IsQuiet := fun _ ↦ trivial

theorem IsQuiet.run_throw {failure : Failure} : (throw failure : Attempt α).run.IsQuiet :=
  fun _ ↦ trivial

theorem IsQuiet.run_bind {attempt : Attempt α} {f : α → Attempt β} (h : attempt.run.IsQuiet)
    (hf : ∀ a, (f a).run.IsQuiet) : (attempt >>= f).run.IsQuiet :=
  fun deeds ↦ (h deeds).bind (fun deeds a _ ↦ hf a deeds) fun _ _ _ ↦ trivial

/-- Quiet work adds no effects to those that were there. -/
theorem IsQuiet.keeps (h : work.IsQuiet) {deeds : List Deed} :
    work.Keeps (fun _ _ ↦ True) (fun deeds' _ ↦ effects deeds' = effects deeds) deeds := by
  specialize h deeds
  induction work generalizing deeds with
  | done a => rfl
  | step s next ih =>
    refine ⟨trivial, fun world ↦ (ih _ (h.2 world)).imp ?_⟩
    intro deeds' _ heq
    simpa [h.1] using heq

/-! ## What is left of the store -/

/-- Work that changes no row leaves the store as it was. -/
theorem store_run {world : World} (h : ∀ d ∈ work.deeds world, d.changed? = none) :
    (work.run world).2.store = world.store := by
  induction work generalizing world with
  | done a => rfl
  | step s next ih =>
    rw [deeds, List.forall_mem_cons] at h
    calc (Work.run (.step s next) world).2.store
        = ((next (world.perform s).1).run (world.perform s).2).2.store := rfl
      _ = (world.perform s).2.store := ih _ h.2
      _ = world.store := World.store_perform_of_changed? h.1

/-- Work with a single change leaves the store as that change leaves it. -/
theorem store_run_of_effects {world : World} {op : Store.Operation} {answer : op.Answer}
    {rest : List Deed} (h : effects (work.deeds world) = ⟨.store op, answer⟩ :: rest)
    (hrest : ∀ d ∈ rest, d.changed? = none) :
    (work.run world).2.store = (world.store.perform world.clock op).2 := by
  induction work generalizing world with
  | done a => contradiction
  | step s next ih =>
    let first : Deed := ⟨s, (world.perform s).1⟩
    let later := (next (world.perform s).1).deeds (world.perform s).2
    change effects (first :: later) = _ at h
    change ((next (world.perform s).1).run (world.perform s).2).2.store = _
    cases heffect : first.isEffect with
    | false =>
      have hstore : (world.perform s).2.store = world.store :=
        World.store_perform_of_changed? (Deed.changed?_eq_none heffect)
      rw [effects, List.filter_cons_of_neg (by simp [heffect])] at h
      rw [ih _ h, hstore, World.clock_perform]
    | true =>
      rw [effects_cons_of_isEffect heffect, List.cons.injEq] at h
      obtain ⟨hfirst, hlater⟩ := h
      -- all changes are among the effects, and the first of them was the only one
      have hnone : ∀ d ∈ later, d.changed? = none := by
        intro d hd
        by_contra hchanged
        refine hchanged (hrest d (hlater ▸ List.mem_filter.mpr ⟨hd, ?_⟩))
        rw [Deed.isEffect, Option.isSome_iff_ne_none.mpr hchanged, Bool.true_or]
      obtain rfl : s = .store op := congrArg Deed.step hfirst
      exact store_run hnone

end Work

end RuleWatch
