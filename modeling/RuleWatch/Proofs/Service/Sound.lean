import RuleWatch.Proofs.Service.Mutation
import RuleWatch.Proofs.Store.Sound

/-!
# Requests bring nothing unsound

A draft that a request has checked is sound, and a request brings no other to the store. So no step
of a request makes a sound store unsound, whatever other requests have done before it.
-/

namespace RuleWatch.Service.Mutation

variable {gate : Expression.Gate} {q : Mutation} {deeds : List Deed} {world : World}

/-- What has been checked is sound. -/
theorem HasChecked.isSound {d : Rule.Draft} (h : q.HasChecked gate deeds d) : d.IsSound gate := by
  obtain ⟨hcheck, horigin⟩ := h
  cases q with
  | createRule draft =>
    cases horigin
    exact Rule.Draft.isSound_normalize hcheck
  | updateRule id changes =>
    obtain ⟨row, -, rfl⟩ := horigin
    exact Rule.isSound_merged hcheck
  | deleteRule id => exact horigin.elim
  | deleteAnalysis id => exact horigin.elim

/-- A request brings nothing to the store but sound drafts. -/
theorem May.isSound {op : Store.Operation} (h : q.May gate deeds (.store op)) :
    op.IsSound gate := by
  cases op with
  | insertRule d => exact h.2.isSound
  | updateRule id changes d => exact h.2.isSound
  | _ => trivial

/-- A step of a request keeps the store sound. -/
theorem May.sound_perform {s : Step} (h : q.May gate deeds s) (hsound : world.store.Sound gate) :
    (world.perform s).2.store.Sound gate := by
  cases s with
  | store op => exact hsound.perform h.isSound
  | _ => exact hsound

/-- A request that is served without interruption keeps the store sound. -/
theorem sound_run (gate : Expression.Gate) (q : Mutation) (hsound : world.store.Sound gate) :
    ((q.serve gate).run.run world).2.store.Sound gate := by
  suffices hwork : ∀ {α : Type} (work : Work α) {ends deeds world},
      work.Keeps (q.May gate) ends deeds → world.store.Sound gate →
        (work.run world).2.store.Sound gate from hwork _ (keeps_serve gate q) hsound
  intro α work
  induction work with
  | done a => exact fun _ hsound ↦ hsound
  | step s next ih => exact fun h hsound ↦ ih _ (h.2 _) (h.1.sound_perform hsound)

end RuleWatch.Service.Mutation
