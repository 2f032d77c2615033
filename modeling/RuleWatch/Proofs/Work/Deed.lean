import RuleWatch.Work.World

/-!
# What work does

A deed is a step that was done, with what came back from it. A piece of work is a tree that branches
on what comes back, so it keeps to a rule of conduct when every branch does: `Work.Keeps may ends`
says that each step is one that `may` allows after the deeds before it, and that the result is one
that `ends` allows after all of them.

Each step may be done in a world of its own. So a piece of work keeps to its conduct whatever
happens between its steps: done without interruption (`Work.Keeps.run`), and side by side with other
work.
-/

namespace RuleWatch

/-- A step that was done, and what came back from it. -/
structure Deed where
  step : Step
  answer : step.Answer

/-- The request to the detector that a step is. -/
def Step.call? : Step → Option Detector.Call
  | .ask call => some call
  | _ => none

/-- Only a request to the detector is one more of them. -/
theorem World.calls_perform (world : World) (s : Step) :
    (world.perform s).2.calls = world.calls ++ s.call?.toList := by
  cases s <;> simp [perform, Step.call?]

/-- The entry in the journal that a step is. -/
def Step.event? : Step → Option Journal.Event
  | .log event => some event
  | _ => none

/-- Only an entry in the journal is one more of them. -/
theorem World.events_perform (world : World) (s : Step) :
    (world.perform s).2.events = world.events ++ s.event?.toList := by
  cases s <;> simp [perform, Step.event?]

/-- The entries in the journal among the deeds. -/
def journal (deeds : List Deed) : List Journal.Event :=
  deeds.filterMap fun d ↦ d.step.event?

/-- An entry comes from the deed that wrote it. -/
theorem exists_deed_of_mem_journal {deeds : List Deed} {event : Journal.Event}
    (h : event ∈ journal deeds) : ∃ d ∈ deeds, d.step = .log event := by
  obtain ⟨d, hd, hevent⟩ := List.mem_filterMap.mp h
  refine ⟨d, hd, ?_⟩
  cases hstep : d.step with
  | log event' =>
    rw [hstep] at hevent
    exact congrArg Step.log (Option.some.inj hevent)
  | _ =>
    rw [hstep] at hevent
    contradiction

@[simp] theorem journal_append {deeds deeds' : List Deed} :
    journal (deeds ++ deeds') = journal deeds ++ journal deeds' :=
  List.filterMap_append ..

@[simp] theorem journal_singleton_log {event : Journal.Event} {answer : Unit} :
    journal [⟨.log event, answer⟩] = [event] := rfl

namespace Work

variable {α β : Type} {may may' : List Deed → Step → Prop}

/-- The work has come to its end. -/
def isDone : Work α → Bool
  | .done _ => true
  | .step .. => false

theorem isDone_iff {work : Work α} : work.isDone ↔ ∃ result, work = .done result := by
  cases work <;> simp [isDone]

/-- Each step of the work is one that `may` allows after the deeds before it, and its result is one
that `ends` allows after all of them, in whatever worlds the steps are done. -/
def Keeps (may : List Deed → Step → Prop) (ends : List Deed → α → Prop) :
    List Deed → Work α → Prop
  | deeds, .done result => ends deeds result
  | deeds, .step s next =>
    may deeds s ∧ ∀ world : World,
      (next (world.perform s).1).Keeps may ends (deeds ++ [⟨s, (world.perform s).1⟩])

@[simp] theorem keeps_done {ends : List Deed → α → Prop} {deeds : List Deed} {result : α} :
    Keeps may ends deeds (.done result) ↔ ends deeds result := Iff.rfl

@[simp] theorem keeps_step {ends : List Deed → α → Prop} {deeds : List Deed} {s : Step}
    {next : s.Answer → Work α} :
    Keeps may ends deeds (.step s next) ↔
      may deeds s ∧ ∀ world : World,
        (next (world.perform s).1).Keeps may ends (deeds ++ [⟨s, (world.perform s).1⟩]) := Iff.rfl

@[simp] theorem keeps_pure {ends : List Deed → α → Prop} {deeds : List Deed} {result : α} :
    Keeps may ends deeds (pure result) ↔ ends deeds result := Iff.rfl

/-- One piece of work after another keeps to a conduct when the first keeps to it up to a result
from which the second does. -/
@[simp] theorem keeps_bind {ends : List Deed → β → Prop} {deeds : List Deed} {work : Work α}
    {f : α → Work β} :
    Keeps may ends deeds (work >>= f) ↔
      Keeps may (fun deeds a ↦ Keeps may ends deeds (f a)) deeds work := by
  induction work generalizing deeds with
  | done a => exact Iff.rfl
  | step s next ih =>
    change _ ∧ (∀ world : World, Keeps may ends _ (next (world.perform s).1 >>= f)) ↔ _
    simp only [ih, keeps_step]

/-- A stricter conduct implies one that allows as much. -/
theorem Keeps.mono {ends ends' : List Deed → α → Prop} {deeds : List Deed} {work : Work α}
    (h : Keeps may ends deeds work) (hmay : ∀ deeds s, may deeds s → may' deeds s)
    (hends : ∀ deeds a, ends deeds a → ends' deeds a) : Keeps may' ends' deeds work := by
  induction work generalizing deeds with
  | done a => exact hends deeds a h
  | step s next ih => exact ⟨hmay deeds s h.1, fun world ↦ ih _ (h.2 world)⟩

/-- An end that is allowed may be told in less detail. -/
theorem Keeps.imp {ends ends' : List Deed → α → Prop} {deeds : List Deed} {work : Work α}
    (h : Keeps may ends deeds work) (hends : ∀ deeds a, ends deeds a → ends' deeds a) :
    Keeps may ends' deeds work :=
  h.mono (fun _ _ hmay ↦ hmay) hends

/-! ## Work that may fail -/

section Attempt

variable {ends : List Deed → Except Failure β → Prop} {deeds : List Deed}

/-- One attempt after another keeps to a conduct when the second does after a success of the first,
and a failure of the first is an end that it allows. -/
theorem Keeps.bind {mid : List Deed → Except Failure α → Prop} {attempt : Attempt α}
    {f : α → Attempt β} (h : Keeps may mid deeds attempt.run)
    (hok : ∀ deeds a, mid deeds (.ok a) → Keeps may ends deeds (f a).run)
    (herror : ∀ deeds failure, mid deeds (.error failure) → ends deeds (.error failure)) :
    Keeps may ends deeds (attempt >>= f).run := by
  rw [ExceptT.run_bind, keeps_bind]
  refine h.imp fun deeds result hmid ↦ ?_
  cases result with
  | ok a => exact hok deeds a hmid
  | error failure => exact herror deeds failure hmid

/-- What is made of the result of an attempt. -/
theorem Keeps.map {mid : List Deed → Except Failure α → Prop} {attempt : Attempt α} {f : α → β}
    (h : Keeps may mid deeds attempt.run)
    (hmap : ∀ deeds result, mid deeds result → ends deeds (f <$> result)) :
    Keeps may ends deeds (f <$> attempt).run :=
  h.bind (fun deeds a hmid ↦ hmap deeds (.ok a) hmid) fun deeds failure hmid ↦
    hmap deeds (.error failure) hmid

end Attempt

/-! ## Without interruption -/

/-- The second piece of work is done in the world that the first has left. -/
theorem run_bind (work : Work α) (f : α → Work β) (world : World) :
    (work >>= f).run world = (f (work.run world).1).run (work.run world).2 := by
  induction work generalizing world with
  | done a => rfl
  | step s next ih => exact ih (world.perform s).1 (world.perform s).2

theorem run_map_run (attempt : Attempt α) (f : α → β) (world : World) :
    (f <$> attempt).run.run world =
      (f <$> (attempt.run.run world).1, (attempt.run.run world).2) := by
  change (attempt.run >>= _).run world = _
  rw [run_bind]
  cases (attempt.run.run world).1 <;> rfl

theorem run_bind_run (attempt : Attempt α) (f : α → Attempt β) (world : World) :
    (attempt >>= f).run.run world =
      match (attempt.run.run world).1 with
      | .ok a => (f a).run.run (attempt.run.run world).2
      | .error failure => (.error failure, (attempt.run.run world).2) := by
  change (attempt.run >>= _).run world = _
  rw [run_bind]
  cases (attempt.run.run world).1 <;> rfl

/-- The deeds of a piece of work that is done without interruption. -/
def deeds : Work α → World → List Deed
  | .done _, _ => []
  | .step s next, world =>
    let (answer, world) := world.perform s
    ⟨s, answer⟩ :: (next answer).deeds world

/-- A piece of work that is done without interruption ends as it may. -/
theorem Keeps.run {ends : List Deed → α → Prop} {before : List Deed} {work : Work α}
    (h : Keeps may ends before work) (world : World) :
    ends (before ++ work.deeds world) (work.run world).1 := by
  induction work generalizing before world with
  | done a => simpa [deeds, Work.run] using h
  | step s next ih =>
    have hnext := ih _ (h.2 world) (world.perform s).2
    simpa [deeds, Work.run] using hnext

/-- The requests to the detector are those among the deeds. -/
theorem run_calls (work : Work α) (world : World) :
    (work.run world).2.calls =
      world.calls ++ (work.deeds world).filterMap fun d ↦ d.step.call? := by
  induction work generalizing world with
  | done a => simp [deeds, Work.run]
  | step s next ih =>
    rw [Work.run, ih, World.calls_perform]
    cases hcall : s.call? <;> simp [deeds, hcall]

/-- What is new in the journal is what was written there. -/
theorem run_events (work : Work α) (world : World) :
    (work.run world).2.events = world.events ++ journal (work.deeds world) := by
  induction work generalizing world with
  | done a => simp [deeds, journal, Work.run]
  | step s next ih =>
    rw [Work.run, ih, World.events_perform]
    cases hevent : s.event? <;> simp [deeds, journal, hevent]

end Work

end RuleWatch
