import RuleWatch.Proofs.Work.Coupled
import RuleWatch.Proofs.Work.Deed

/-!
# Two runs with answers of one kind

Coupled work agrees in what does not depend on the detector. When all that the detector answers in
either run is of one kind, two runs may agree in more than that: the work concords
(`Work.Concords`). Coupled work concords, and where the detector is asked, work concords that goes
on alike after any two answers of the kind (`Work.concords_ask`).
-/

namespace RuleWatch

/-- If the deed is a request to the detector, its answer is of a kind. -/
def Deed.Meets (A : Detector.Call → Option Bytes → Prop) : Deed → Prop
  | ⟨.ask call, answer⟩ => A call answer
  | _ => True

namespace Work

variable {α β γ δ : Type} {A : Detector.Call → Option Bytes → Prop} {R : α → β → Prop}
  {S : γ → δ → Prop}

/-- The deeds of one piece of work come before those of another. -/
theorem deeds_bind (work : Work α) (f : α → Work γ) (world : World) :
    (work >>= f).deeds world =
      work.deeds world ++ (f (work.run world).1).deeds (work.run world).2 := by
  induction work generalizing world with
  | done a => rfl
  | step s next ih => exact congrArg (_ :: ·) (ih (world.perform s).1 (world.perform s).2)

/-- A detector with answers of a kind brings no others. -/
theorem meets_of_detector (work : Work α) {world : World}
    (h : ∀ n call, A call (world.detector n call)) : ∀ d ∈ work.deeds world, d.Meets A := by
  induction work generalizing world with
  | done a => simp [deeds]
  | step s next ih =>
    have hdetector : (world.perform s).2.detector = world.detector := by cases s <;> rfl
    refine List.forall_mem_cons.mpr ⟨?_, @ih _ (world.perform s).2 (by rwa [hdetector])⟩
    cases s with
    | ask call => exact h _ call
    | _ => trivial

/-- In worlds that have the store and the clock in common, the two pieces of work end in results
that are related, and in such worlds again, if all that the detector answers is of a kind. -/
def Concords (A : Detector.Call → Option Bytes → Prop) (R : α → β → Prop) (work : Work α)
    (work' : Work β) : Prop :=
  ∀ ⦃world world' : World⦄, world.Agree world' → (∀ d ∈ work.deeds world, d.Meets A) →
    (∀ d ∈ work'.deeds world', d.Meets A) →
      R (work.run world).1 (work'.run world').1 ∧ (work.run world).2.Agree (work'.run world').2

/-- What does not depend on the detector does not depend on the kind of its answers. -/
theorem Coupled.concords {work : Work α} {work' : Work β} (h : Coupled R work work') :
    Concords A R work work' :=
  fun _ _ hworld _ _ ↦ h.run hworld

section Lemmas

variable {work : Work α} {work' : Work β}

theorem Concords.bind (h : Concords A R work work') {f : α → Work γ} {f' : β → Work δ}
    (hf : ∀ a b, R a b → Concords A S (f a) (f' b)) : Concords A S (work >>= f) (work' >>= f') := by
  intro world world' hworld hmeets hmeets'
  rw [deeds_bind, List.forall_mem_append] at hmeets hmeets'
  obtain ⟨hresult, hafter⟩ := h hworld hmeets.1 hmeets'.1
  rw [run_bind, run_bind]
  exact hf _ _ hresult hafter hmeets.2 hmeets'.2

theorem Concords.mono (h : Concords A R work work') {R' : α → β → Prop}
    (hR : ∀ a b, R a b → R' a b) : Concords A R' work work' := by
  intro world world' hworld hmeets hmeets'
  obtain ⟨hresult, hafter⟩ := h hworld hmeets hmeets'
  exact ⟨hR _ _ hresult, hafter⟩

theorem concords_done {a : α} {b : β} (h : R a b) : Concords A R (.done a) (.done b) :=
  (Coupled.done h).concords

/-- After any two answers of the kind the two runs go on alike. -/
theorem concords_ask {call : Detector.Call} {next : Option Bytes → Work α}
    {next' : Option Bytes → Work β}
    (h : ∀ answer answer', A call answer → A call answer' →
      Concords A R (next answer) (next' answer')) :
    Concords A R (.step (.ask call) next) (.step (.ask call) next') := by
  intro world world' hworld hmeets hmeets'
  obtain ⟨hanswer, hmeets⟩ := List.forall_mem_cons.mp hmeets
  obtain ⟨hanswer', hmeets'⟩ := List.forall_mem_cons.mp hmeets'
  exact h _ _ hanswer hanswer' ⟨hworld.store, hworld.clock⟩ hmeets hmeets'

/-- What is written in the journal is of no concern. -/
theorem concords_log {event event' : Journal.Event} {next : Unit → Work α} {next' : Unit → Work β}
    (h : Concords A R (next ()) (next' ())) :
    Concords A R (.step (.log event) next) (.step (.log event') next') := by
  intro world world' hworld hmeets hmeets'
  exact h ⟨hworld.store, hworld.clock⟩ (List.forall_mem_cons.mp hmeets).2
    (List.forall_mem_cons.mp hmeets').2

theorem IsSteady.bind_concords {work : Work α} (h : work.IsSteady) {f : α → Work γ}
    {f' : α → Work δ} (hf : ∀ a, Concords A S (f a) (f' a)) :
    Concords A S (work >>= f) (work >>= f') :=
  (Coupled.concords h).bind fun a _ heq ↦ heq ▸ hf a

end Lemmas

/-! ## Work that may fail -/

section Attempt

variable {R : Except Failure α → Except Failure β → Prop}
  {S : Except Failure γ → Except Failure δ → Prop}

/-- What is made of the results of two attempts. -/
theorem Concords.map {attempt : Attempt α} {attempt' : Attempt β}
    (h : Concords A R attempt.run attempt'.run) {f : α → γ} {f' : β → δ}
    (hmap : ∀ result result', R result result' → S (f <$> result) (f' <$> result')) :
    Concords A S (f <$> attempt).run (f' <$> attempt').run := by
  refine Concords.bind h fun result result' hresult ↦ ?_
  have hmapped := hmap result result' hresult
  cases result <;> cases result' <;> exact concords_done hmapped

/-- After a steady attempt two runs fail alike or go on from the same result. -/
theorem IsSteady.run_bind_concords {attempt : Attempt α} (h : attempt.run.IsSteady)
    {f : α → Attempt γ} {f' : α → Attempt δ}
    (herror : ∀ failure, S (.error failure) (.error failure))
    (hf : ∀ a, Concords A S (f a).run (f' a).run) :
    Concords A S (attempt >>= f).run (attempt >>= f').run := by
  refine h.bind_concords fun result ↦ ?_
  cases result with
  | ok a => exact hf a
  | error failure => exact concords_done (herror failure)

end Attempt

end Work

end RuleWatch
