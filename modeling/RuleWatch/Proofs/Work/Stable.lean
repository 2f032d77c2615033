import RuleWatch.Proofs.Work.Crowd

/-!
# Once and for all

A property of the world is stable when nothing that can happen breaks it. What a deed has brought
about, if it is stable, holds from then on: at every later point of a run, and when each later deed
is done.
-/

namespace RuleWatch

/-- Nothing that can happen in the world breaks the property. -/
structure World.IsStable (P : World → Prop) : Prop where
  perform : ∀ {world : World} (s : Step), P world → P (world.perform s).2
  clock : ∀ {world : World} (now : Int), P world → P { world with clock := now }
  episode : ∀ {world : World} (e : Analysis.Episode), P world →
    P { world with store := (world.store.insertAnalysis e).2 }

/-- A property of the store is stable if no operation breaks it, and no new episode. -/
theorem World.isStable_of_store {P : Store → Prop}
    (hperform : ∀ {store : Store} (now : Int) (op : Store.Operation), P store →
      P (store.perform now op).2)
    (hepisode : ∀ {store : Store} (e : Analysis.Episode), P store → P (store.insertAnalysis e).2) :
    IsStable fun world ↦ P world.store where
  perform {world} s hP := by
    cases s with
    | store op => exact hperform world.clock op hP
    | _ => exact hP
  clock _ hP := hP
  episode e hP := hepisode e hP

/-- The deed is what comes of its step in this world. -/
def Deed.IsDoneIn (d : Deed) (world : World) : Prop :=
  d.answer = (world.perform d.step).1

namespace Crowd

variable {ρ : Type} {may : ρ → List Deed → Step → Prop} {starts : Deed → Prop}
  {before P : World → Prop}

/-- What deeds of some kind bring about, if it is stable, holds after each of them: now, and when
each later deed was done. What they bring it about from is stable too. -/
theorem Invariant.after (hbefore : World.IsStable before) (hP : World.IsStable P)
    (hstarts : ∀ (world : World) (s : Step), before world → starts ⟨s, (world.perform s).1⟩ →
      P (world.perform s).2) :
    Invariant may fun _ world history ↦ before world ∧
      ∀ first who deed later, history = first ++ (who, deed) :: later → starts deed →
        P world ∧ ∀ entry ∈ later, ∃ past, P past ∧ entry.2.IsDoneIn past where
  arrival _ h := h
  clock now h :=
    ⟨hbefore.clock now h.1, fun first who deed later hhistory hdeed ↦
      ⟨hP.clock now (h.2 first who deed later hhistory hdeed).1,
        (h.2 first who deed later hhistory hdeed).2⟩⟩
  episode e h :=
    ⟨hbefore.episode e h.1, fun first who deed later hhistory hdeed ↦
      ⟨hP.episode e (h.2 first who deed later hhistory hdeed).1,
        (h.2 first who deed later hhistory hdeed).2⟩⟩
  step {_ world history place _ s} _ _ h := by
    refine ⟨hbefore.perform s h.1, fun first who deed later hhistory hdeed ↦ ?_⟩
    rcases List.eq_nil_or_concat later with rfl | ⟨earlier, last, rfl⟩
    · -- the deed is the one that has just been done
      obtain ⟨-, hlast⟩ := List.append_inj' hhistory rfl
      obtain ⟨-, rfl⟩ := Prod.mk.inj (List.singleton_inj.mp hlast)
      exact ⟨hstarts world s h.1 hdeed, by simp⟩
    · rw [List.concat_eq_append, ← List.cons_append, ← List.append_assoc] at hhistory
      obtain ⟨hold, hlast⟩ := List.append_inj' hhistory rfl
      obtain rfl := List.singleton_inj.mp hlast
      obtain ⟨hnow, hentries⟩ := h.2 first who deed earlier hold hdeed
      refine ⟨hP.perform s hnow, fun entry hentry ↦ ?_⟩
      rw [List.concat_eq_append] at hentry
      rcases List.mem_append.mp hentry with hearlier | hnew
      · exact hentries entry hearlier
      · rw [List.mem_singleton.mp hnew]
        exact ⟨world, hnow, rfl⟩

end Crowd

end RuleWatch
