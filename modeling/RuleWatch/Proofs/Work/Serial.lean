import RuleWatch.Proofs.Work.Crowd

/-!
# Work done one after another

Requests that are served one after another, each without interruption, are also served side by side:
no other request happens to come before the end of the one before it. So what holds of all runs of a
crowd holds of them (`World.exists_run_eq_serially`).
-/

namespace RuleWatch

variable {ρ α : Type} {serve : ρ → Work α}

/-- What comes of requests, each at a point in time, that are served one after another in a world:
the result of each, and the world after all of them. -/
def World.serially (serve : ρ → Work α) (world : World) :
    List (Int × ρ) → List (ρ × α) × World
  | [] => ([], world)
  | (now, request) :: rest =>
    let served := (serve request).run { world with clock := now }
    let later := served.2.serially serve rest
    ((request, served.1) :: later.1, later.2)

namespace Crowd

variable {c : Crowd ρ α}

theorem run_append {events events' : List (Event ρ)} :
    c.run serve (events ++ events') = (c.run serve events).run serve events' :=
  List.foldl_append

/-- A request at a place comes to its end if it is always its turn. -/
theorem exists_run_turns (serve : ρ → Work α) {place : Nat} {request : ρ} {work : Work α}
    (h : c.members[place]? = some (request, work)) :
    ∃ events, (c.run serve events).world = (work.run c.world).2 ∧
      (c.run serve events).members =
        c.members.set place (request, .done (work.run c.world).1) := by
  induction work generalizing c with
  | done a =>
    refine ⟨[], rfl, ?_⟩
    obtain ⟨_, hget⟩ := List.getElem?_eq_some_iff.mp h
    change c.members = c.members.set place (request, .done a)
    rw [← hget, List.set_getElem_self]
  | step s next ih =>
    have hnext : c.next serve (.turn place) = _ := next_turn h
    have hplace : (c.next serve (.turn place)).members[place]? =
        some (request, next (c.world.perform s).1) := by
      rw [hnext]
      exact List.getElem?_set_self (List.getElem?_eq_some_iff.mp h).1
    obtain ⟨events, hworld, hmembers⟩ := ih _ hplace
    refine ⟨.turn place :: events, ?_, ?_⟩
    · exact hworld.trans (by rw [hnext]; rfl)
    · refine hmembers.trans ?_
      rw [hnext, List.set_set]
      rfl

/-- Among the runs of a crowd are those in which one more request after another comes in and comes
to its end at once. -/
theorem exists_run_serially (c : Crowd ρ α) (order : List (Int × ρ)) :
    ∃ events, (c.run serve events).world = (c.world.serially serve order).2 ∧
      (c.run serve events).members = c.members ++
        (c.world.serially serve order).1.map fun served ↦ (served.1, .done served.2) := by
  induction order generalizing c with
  | nil => exact ⟨[], rfl, (List.append_nil _).symm⟩
  | cons entry order ih =>
    obtain ⟨now, request⟩ := entry
    let come := c.run serve [.clock now, .arrival request]
    have hplace : come.members[c.members.length]? = some (request, serve request) := by
      simp [come, run, next]
    obtain ⟨turns, hworld, hmembers⟩ := exists_run_turns serve hplace
    obtain ⟨events, hworld', hmembers'⟩ := ih (come.run serve turns)
    refine ⟨[.clock now, .arrival request] ++ (turns ++ events), ?_, ?_⟩
    · rw [run_append, run_append, hworld', hworld]
      rfl
    · rw [run_append, run_append, hmembers', hworld, hmembers]
      simp [come, run, next, World.serially]

end Crowd

/-- Serving requests one after another is a way of serving them side by side. -/
theorem World.exists_run_eq_serially (serve : ρ → Work α) (world : World)
    (order : List (Int × ρ)) :
    ∃ events, ((Crowd.start world).run serve events).world = (world.serially serve order).2 ∧
      ((Crowd.start world).run serve events).members =
        (world.serially serve order).1.map fun served ↦ (served.1, .done served.2) :=
  (Crowd.start world).exists_run_serially order

/-- The requests that are served one after another. -/
theorem World.map_fst_serially {serve : ρ → Work α} {world : World} {order : List (Int × ρ)} :
    (world.serially serve order).1.map Prod.fst = order.map Prod.snd := by
  induction order generalizing world with
  | nil => rfl
  | cons entry order ih => exact congrArg (entry.2 :: ·) ih

end RuleWatch
