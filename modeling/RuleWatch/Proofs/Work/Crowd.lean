import Mathlib.Algebra.BigOperators.Group.Finset.Piecewise
import RuleWatch.Proofs.Work.Deed

/-!
# Work side by side

A crowd is a number of requests that are being served in one world at the same time. Anything can
happen next: one more request comes in, any one of them does its next step, time moves, or the
detector records an episode. A list of such events is a run, so a statement about all lists of
events is one about every interleaving, at every point of it.

The history remembers who did what. Nothing looks at it: it is there to be talked about.

The main statement is `Crowd.Invariant.run`: a property that each single step keeps, when it is a
step that the conduct of its request allows, holds all through a run.
-/

namespace RuleWatch

/-- Requests that are being served side by side: the world they share, each request with what is
left of its work, and the deeds so far, each under the place of its request. -/
structure Crowd (ρ α : Type) where
  world : World
  members : List (ρ × Work α)
  history : List (Nat × Deed)

namespace Crowd

variable {ρ α : Type}

/-- What can happen to a crowd. -/
inductive Event (ρ : Type)
  | arrival (request : ρ)
  /-- The request at a place does its next step, if it has one. -/
  | turn (place : Nat)
  | clock (now : Int)
  /-- The detector records an episode. -/
  | episode (e : Analysis.Episode)

/-- Nobody has come yet. -/
def start (world : World) : Crowd ρ α :=
  ⟨world, [], []⟩

/-- What the crowd is after an event, when `serve` is the work of a request. -/
def next (serve : ρ → Work α) (c : Crowd ρ α) : Event ρ → Crowd ρ α
  | .arrival request => { c with members := c.members ++ [(request, serve request)] }
  | .turn place =>
    match c.members[place]? with
    | some (request, .step s next) =>
      let (answer, world) := c.world.perform s
      ⟨world, c.members.set place (request, next answer), c.history ++ [(place, ⟨s, answer⟩)]⟩
    | _ => c
  | .clock now => { c with world := { c.world with clock := now } }
  | .episode e => { c with world := { c.world with store := (c.world.store.insertAnalysis e).2 } }

/-- What the crowd is after a number of events. -/
def run (serve : ρ → Work α) (c : Crowd ρ α) (events : List (Event ρ)) : Crowd ρ α :=
  events.foldl (next serve) c

/-- All requests that have come, each at its place. -/
def requests (c : Crowd ρ α) : List ρ :=
  c.members.map Prod.fst

/-- The deeds of the request at a place. -/
def deedsOf (history : List (Nat × Deed)) (place : Nat) : List Deed :=
  history.filterMap fun (who, deed) ↦ if who = place then some deed else none

variable {serve : ρ → Work α} {may : ρ → List Deed → Step → Prop}
  {ends : ρ → List Deed → α → Prop} {c : Crowd ρ α}

theorem mem_deedsOf {history : List (Nat × Deed)} {place : Nat} {deed : Deed} :
    deed ∈ deedsOf history place ↔ (place, deed) ∈ history := by
  simp [deedsOf, List.mem_filterMap]

@[simp] theorem deedsOf_append {history history' : List (Nat × Deed)} {place : Nat} :
    deedsOf (history ++ history') place = deedsOf history place ++ deedsOf history' place :=
  List.filterMap_append ..

@[simp] theorem deedsOf_cons_self {history : List (Nat × Deed)} {place : Nat} {deed : Deed} :
    deedsOf ((place, deed) :: history) place = deed :: deedsOf history place := by
  simp [deedsOf]

theorem deedsOf_append_self {history : List (Nat × Deed)} {place : Nat} {deed : Deed} :
    deedsOf (history ++ [(place, deed)]) place = deedsOf history place ++ [deed] := by
  simp [deedsOf]

theorem deedsOf_append_of_ne {history : List (Nat × Deed)} {place who : Nat} {deed : Deed}
    (h : who ≠ place) : deedsOf (history ++ [(who, deed)]) place = deedsOf history place := by
  simp [deedsOf, h]

/-- Nothing has been done at a place beyond those that are known. -/
theorem deedsOf_eq_nil {history : List (Nat × Deed)} {n place : Nat}
    (h : ∀ entry ∈ history, entry.1 < n) (hplace : n ≤ place) : deedsOf history place = [] := by
  refine List.filterMap_eq_nil_iff.mpr fun entry hentry ↦ if_neg fun hwho ↦ ?_
  have := h entry hentry
  omega

/-- The deeds of all places together are those of the history. -/
theorem sum_countP_deedsOf (p : Deed → Bool) {history : List (Nat × Deed)} {n : Nat}
    (h : ∀ entry ∈ history, entry.1 < n) :
    ∑ place ∈ Finset.range n, (deedsOf history place).countP p =
      history.countP fun entry ↦ p entry.2 := by
  induction history with
  | nil => simp [deedsOf]
  | cons entry history ih =>
    obtain ⟨who, deed⟩ := entry
    rw [List.forall_mem_cons] at h
    have hcons : ∀ place, (deedsOf ((who, deed) :: history) place).countP p =
        (deedsOf history place).countP p +
          if who = place then (if p deed then 1 else 0) else 0 := by
      intro place
      by_cases hwho : who = place <;> simp [deedsOf, hwho, List.countP_cons]
    simp only [hcons, Finset.sum_add_distrib, Finset.sum_ite_eq, Finset.mem_range, h.1, if_true,
      ih h.2, List.countP_cons]

/-- All requests are on their way as their conduct allows. -/
structure Obeys (may : ρ → List Deed → Step → Prop) (ends : ρ → List Deed → α → Prop)
    (c : Crowd ρ α) : Prop where
  known : ∀ entry ∈ c.history, entry.1 < c.members.length
  keeps : ∀ {place : Nat} {request : ρ} {work : Work α},
    c.members[place]? = some (request, work) →
    work.Keeps (may request) (ends request) (deedsOf c.history place)

theorem obeys_start (world : World) : (start world : Crowd ρ α).Obeys may ends :=
  ⟨by simp [start], by simp [start]⟩

/-- The request at a place, with a step to do, does it. -/
theorem next_turn {place : Nat} {request : ρ} {s : Step} {rest : s.Answer → Work α}
    (h : c.members[place]? = some (request, .step s rest)) :
    c.next serve (.turn place) =
      ⟨(c.world.perform s).2, c.members.set place (request, rest (c.world.perform s).1),
        c.history ++ [(place, ⟨s, (c.world.perform s).1⟩)]⟩ := by
  simp only [next, h]

/-- A turn is that of a request with a step to do, or changes nothing. -/
theorem next_turn_cases (serve : ρ → Work α) (c : Crowd ρ α) (place : Nat) :
    c.next serve (.turn place) = c ∨
      ∃ request s rest, c.members[place]? = some (request, .step s rest) := by
  match h : c.members[place]? with
  | none => exact .inl (by simp only [next, h])
  | some (request, .done result) => exact .inl (by simp only [next, h])
  | some (request, .step s rest) => exact .inr ⟨request, s, rest, rfl⟩

theorem Obeys.turn {place : Nat} (h : c.Obeys may ends) :
    (c.next serve (.turn place)).Obeys may ends := by
  obtain heq | ⟨request, s, rest, hplace⟩ := next_turn_cases serve c place
  · rwa [heq]
  rw [next_turn hplace]
  have hlt : place < c.members.length := (List.getElem?_eq_some_iff.mp hplace).1
  constructor
  · intro entry hentry
    rw [List.length_set]
    rcases List.mem_append.mp hentry with hold | hnew
    · exact h.known entry hold
    · rw [List.mem_singleton.mp hnew]
      exact hlt
  · intro other request' work hwork
    by_cases hother : place = other
    · subst hother
      rw [List.getElem?_set_self hlt, Option.some.injEq, Prod.mk.injEq] at hwork
      obtain ⟨rfl, rfl⟩ := hwork
      rw [deedsOf_append_self]
      exact (h.keeps hplace).2 c.world
    · rw [List.getElem?_set_ne hother] at hwork
      rw [deedsOf_append_of_ne hother]
      exact h.keeps hwork

theorem Obeys.arrival {request : ρ} (h : c.Obeys may ends)
    (hserve : (serve request).Keeps (may request) (ends request) []) :
    (c.next serve (.arrival request)).Obeys may ends := by
  constructor
  · intro entry hentry
    have := h.known entry hentry
    simp only [next, List.length_append, List.length_singleton]
    omega
  · intro place request' work hwork
    by_cases hplace : place < c.members.length
    · rw [next, List.getElem?_append_left hplace] at hwork
      exact h.keeps hwork
    · simp only [next, List.getElem?_append_right (Nat.le_of_not_lt hplace),
        List.getElem?_singleton, Option.ite_none_right_eq_some, Option.some.injEq,
        Prod.mk.injEq] at hwork
      obtain ⟨-, rfl, rfl⟩ := hwork
      -- nobody has done anything at the place of the newcomer
      have hnone : deedsOf c.history place = [] := deedsOf_eq_nil h.known (Nat.le_of_not_lt hplace)
      simpa only [next, hnone] using hserve

/-- All requests stay on their way as their conduct allows. -/
theorem Obeys.next (h : c.Obeys may ends)
    (hserve : ∀ request, (serve request).Keeps (may request) (ends request) []) (e : Event ρ) :
    (c.next serve e).Obeys may ends := by
  cases e with
  | arrival request => exact h.arrival (hserve request)
  | turn place => exact h.turn
  | clock now => exact ⟨h.known, h.keeps⟩
  | episode e => exact ⟨h.known, h.keeps⟩

theorem Obeys.run (h : c.Obeys may ends)
    (hserve : ∀ request, (serve request).Keeps (may request) (ends request) [])
    (events : List (Event ρ)) : (c.run serve events).Obeys may ends := by
  induction events generalizing c with
  | nil => exact h
  | cons e events ih => exact ih (h.next hserve e)

/-- A property of a crowd, told from the requests, the world and the history, that no event breaks,
if each step is one that the conduct of its request allows. -/
structure Invariant (may : ρ → List Deed → Step → Prop)
    (holds : List ρ → World → List (Nat × Deed) → Prop) : Prop where
  arrival : ∀ {requests world history} (request : ρ), holds requests world history →
    holds (requests ++ [request]) world history
  clock : ∀ {requests world history} (now : Int), holds requests world history →
    holds requests { world with clock := now } history
  episode : ∀ {requests world history} (e : Analysis.Episode), holds requests world history →
    holds requests { world with store := (world.store.insertAnalysis e).2 } history
  step : ∀ {requests world history} {place : Nat} {request : ρ} {s : Step},
    requests[place]? = some request → may request (deedsOf history place) s →
    holds requests world history →
    holds requests (world.perform s).2 (history ++ [(place, ⟨s, (world.perform s).1⟩)])

namespace Invariant

variable {holds : List ρ → World → List (Nat × Deed) → Prop}

theorem next (hinv : Invariant may holds) (hobeys : c.Obeys may ends)
    (h : holds c.requests c.world c.history) (e : Event ρ) :
    holds (c.next serve e).requests (c.next serve e).world (c.next serve e).history := by
  cases e with
  | arrival request =>
    simpa [Crowd.next, requests] using hinv.arrival request h
  | turn place =>
    obtain heq | ⟨request, s, rest, hplace⟩ := next_turn_cases serve c place
    · rwa [heq]
    have hrequest : c.requests[place]? = some request := by simp [requests, hplace]
    have hsame : (c.members.set place (request, rest (c.world.perform s).1)).map Prod.fst
        = c.requests := by
      obtain ⟨_, hget⟩ := List.getElem?_eq_some_iff.mp hrequest
      rw [List.map_set, ← hget]
      exact List.set_getElem_self _
    rw [next_turn hplace]
    simpa only [requests, hsame] using hinv.step hrequest (hobeys.keeps hplace).1 h
  | clock now => exact hinv.clock now h
  | episode e => exact hinv.episode e h

/-- A property that no event breaks holds all through a run, if each request keeps to its
conduct. -/
theorem run (hinv : Invariant may holds)
    (hserve : ∀ request, (serve request).Keeps (may request) (ends request) []) {world : World}
    (h : holds [] world []) (events : List (Event ρ)) :
    let c := (start world).run serve events
    holds c.requests c.world c.history := by
  suffices hall : ∀ c : Crowd ρ α, c.Obeys may ends → holds c.requests c.world c.history →
      holds (c.run serve events).requests (c.run serve events).world
        (c.run serve events).history from hall _ (obeys_start world) h
  induction events with
  | nil => exact fun c _ hc ↦ hc
  | cons e events ih =>
    exact fun c hobeys hc ↦ ih _ (hobeys.next hserve e) (hinv.next hobeys hc e)

/-- All that was done is of a kind, if no request does anything else. -/
theorem steps {P : Step → Prop} :
    Invariant (fun (_ : ρ) _ s ↦ P s) fun _ _ history ↦ ∀ entry ∈ history, P entry.2.step where
  arrival _ h := h
  clock _ h := h
  episode _ h := h
  step _ hs h := List.forall_mem_append.mpr ⟨h, List.forall_mem_singleton.mpr hs⟩

/-- The requests to the detector are those in the history. -/
theorem calls (before : List Detector.Call) :
    Invariant may fun _ world history ↦
      world.calls = before ++ history.filterMap fun entry ↦ entry.2.step.call? where
  arrival _ h := h
  clock _ h := h
  episode _ h := h
  step {_ world history place _ s} _ _ h := by
    rw [World.calls_perform, h, List.append_assoc, List.filterMap_append]
    cases hcall : s.call? <;> simp [hcall]

/-- What is new in the journal is what was written there in the history. -/
theorem events (before : List Journal.Event) :
    Invariant may fun _ world history ↦
      world.events = before ++ journal (history.map Prod.snd) where
  arrival _ h := h
  clock _ h := h
  episode _ h := h
  step {_ world history place _ s} _ _ h := by
    rw [World.events_perform, h, List.append_assoc, List.map_append, journal_append]
    cases hevent : s.event? <;> simp [journal, hevent]

end Invariant

/-! ## Ends -/

/-- All requests have come to their ends. -/
def isSettled (c : Crowd ρ α) : Bool :=
  c.members.all fun member ↦ member.2.isDone

theorem exists_done {place : Nat} (h : c.isSettled) (hlt : place < c.members.length) :
    ∃ request result, c.members[place]? = some (request, .done result) := by
  have hmember := List.all_eq_true.mp h _ (List.getElem_mem hlt)
  obtain ⟨result, hresult⟩ := Work.isDone_iff.mp hmember
  exact ⟨_, result, List.getElem?_eq_some_iff.mpr ⟨hlt, Prod.ext rfl hresult⟩⟩

end Crowd

end RuleWatch
