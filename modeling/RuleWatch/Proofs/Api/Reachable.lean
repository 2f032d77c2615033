import RuleWatch.Proofs.Api.Conduct
import RuleWatch.Proofs.Work.Crowd

/-!
# Stores that requests can bring about

A store is reachable if it is what requests of any kind, served side by side and in any order of
their steps, have made of an empty one. It is sound, since no proper step makes a sound store
unsound.
-/

namespace RuleWatch

open Http (Request)

namespace Server

variable {gate : Expression.Gate}

/-- The store can be brought about by requests that are served side by side, while time passes and
the detector records episodes. -/
def Reaches (server : Server gate) (store : Store) : Prop :=
  ∃ (world : World) (events : List (Crowd.Event Request)), world.store = .empty ∧
    ((Crowd.start world).run server.serve events).world.store = store

/-- Proper steps keep a store sound, and so does all else that happens. -/
theorem invariant_sound :
    Crowd.Invariant
      (fun (r : Request) _ s ↦ ∃ trace, s.IsProper gate r.MayCall trace)
      fun _ world _ ↦ world.store.Sound gate where
  arrival _ h := h
  clock _ h := h
  episode _ h := h.of_rules_eq rfl
  step {_ _ _ _ _ s} _ hproper h := by
    obtain ⟨trace, hproper⟩ := hproper
    cases s with
    | store op => exact h.perform hproper
    | _ => exact h

/-- A store that is reachable is sound. -/
theorem Reaches.sound {server : Server gate} {store : Store} (h : server.Reaches store) :
    store.Sound gate := by
  obtain ⟨world, events, hempty, rfl⟩ := h
  refine invariant_sound.run (fun r ↦ (server.confined_serve r).keeps []) ?_ events
  exact .of_rows_eq_nil (by rw [hempty]; rfl)

/-- A request to make a rule. -/
def makeDisk : Request where
  method := .post
  target := "/api/v1/rules/create"
  headers := [("content-type", Text.toBytes "application/json"), ("x-trace-id", [55])]
  body := Text.toBytes <| "\x7b\"name\":\"disk\",\"expression\":\"disk_usage\","
    ++ "\"severity\":\"error\",\"duration\":\"5m\"\x7d"

end Server

end RuleWatch
