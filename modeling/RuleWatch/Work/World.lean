import RuleWatch.Work.Basic

/-!
# Worlds

What work is done in: a store, a clock, a detector, a source of random bytes; and what the work has
left behind, its entries in the journal and its requests to the detector.
-/

namespace RuleWatch

/-- How a detector behaves: what it answers to its requests, the first one numbered zero. -/
abbrev Detector.Behaviour := Nat → Detector.Call → Option Bytes

/-- A detector that never answers. -/
def Detector.silent : Detector.Behaviour := fun _ _ ↦ none

/-- A source of random bytes: what each draw brings, the first one numbered zero. -/
abbrev RandomSource := Nat → Vector UInt8 drawLength

/-- The world at a moment between two steps. Events and calls are in the order in which they
came. -/
structure World where
  store : Store
  clock : Int
  detector : Detector.Behaviour
  random : RandomSource
  draws : Nat
  calls : List Detector.Call
  events : List Journal.Event

namespace World

/-- A world in which nothing has happened yet. -/
def fresh (clock : Int) (detector : Detector.Behaviour) (random : RandomSource) : World :=
  { store := .empty, clock, detector, random, draws := 0, calls := [], events := [] }

/-- Does one step. -/
def perform (world : World) : (s : Step) → s.Answer × World
  | .store op =>
    let (answer, store) := world.store.perform world.clock op
    (answer, { world with store })
  | .ask call =>
    (world.detector world.calls.length call, { world with calls := world.calls ++ [call] })
  | .clock => (world.clock, world)
  | .random => (world.random world.draws, { world with draws := world.draws + 1 })
  | .log event => ((), { world with events := world.events ++ [event] })

end World

/-- Does a piece of work without interruption. -/
def Work.run {α : Type} : Work α → World → α × World
  | .done result, world => (result, world)
  | .step s next, world =>
    let (answer, world) := world.perform s
    (next answer).run world

end RuleWatch
