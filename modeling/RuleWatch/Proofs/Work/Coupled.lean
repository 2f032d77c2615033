import RuleWatch.Work.World

/-!
# Two runs of one piece of work

Two runs that have the store and the clock in common may differ in everything else: in what the
detector answers, in the random bytes, in the journal. Two pieces of work are coupled when they do
the same with what is common, whatever comes back from the rest; so they leave the same store behind
(`Work.Coupled.run`).
-/

namespace RuleWatch

/-- The step is about what two runs have in common. -/
def Step.isShared : Step → Bool
  | .store _ | .clock => true
  | _ => false

namespace World

variable {world world' : World} {s : Step}

/-- Two worlds have the store and the clock in common. -/
structure Agree (world world' : World) : Prop where
  store : world.store = world'.store
  clock : world.clock = world'.clock

theorem Agree.symm (h : world.Agree world') : world'.Agree world :=
  ⟨h.store.symm, h.clock.symm⟩

/-- What is common brings the same answer to both, and stays common. -/
theorem Agree.perform (h : world.Agree world') (hs : s.isShared) :
    (world.perform s).1 = (world'.perform s).1 ∧
      (world.perform s).2.Agree (world'.perform s).2 := by
  cases s with
  | store op =>
    have hanswer : (world.store.perform world.clock op).1 =
        (world'.store.perform world'.clock op).1 := by rw [h.store, h.clock]
    have hstore : (world.store.perform world.clock op).2 =
        (world'.store.perform world'.clock op).2 := by rw [h.store, h.clock]
    exact ⟨hanswer, hstore, h.clock⟩
  | clock => exact ⟨h.clock, h⟩
  | _ => contradiction

/-- The rest is no concern of the other world. -/
theorem Agree.perform_left (h : world.Agree world') (hs : s.isShared = false) :
    (world.perform s).2.Agree world' := by
  cases s with
  | store op => contradiction
  | clock => contradiction
  | _ => exact ⟨h.store, h.clock⟩

end World

namespace Work

variable {α β γ δ : Type}

/-- The two pieces of work do the same with what two runs have in common, whatever comes back from
the rest, and end in results that are related. -/
inductive Coupled (R : α → β → Prop) : Work α → Work β → Prop
  | done {a : α} {b : β} (h : R a b) : Coupled R (.done a) (.done b)
  | both {s : Step} {next : s.Answer → Work α} {next' : s.Answer → Work β} (hs : s.isShared)
    (h : ∀ answer, Coupled R (next answer) (next' answer)) :
    Coupled R (.step s next) (.step s next')
  | left {s : Step} {next : s.Answer → Work α} {work' : Work β} (hs : s.isShared = false)
    (h : ∀ answer, Coupled R (next answer) work') : Coupled R (.step s next) work'
  | right {s : Step} {work : Work α} {next' : s.Answer → Work β} (hs : s.isShared = false)
    (h : ∀ answer, Coupled R work (next' answer)) : Coupled R work (.step s next')

/-- In worlds that have the store and the clock in common, coupled work ends in results that are
related, and in such worlds again. -/
theorem Coupled.run {R : α → β → Prop} {work : Work α} {work' : Work β} (h : Coupled R work work')
    {world world' : World} (hworld : world.Agree world') :
    R (work.run world).1 (work'.run world').1 ∧
      (work.run world).2.Agree (work'.run world').2 := by
  induction h generalizing world world' with
  | done h => exact ⟨h, hworld⟩
  | @both s next next' hs _ ih =>
    obtain ⟨hanswer, hnext⟩ := hworld.perform hs
    change R ((next (world.perform s).1).run _).1 _ ∧ ((next (world.perform s).1).run _).2.Agree _
    rw [hanswer]
    exact ih (world'.perform s).1 hnext
  | left hs _ ih => exact ih _ (hworld.perform_left hs)
  | right hs _ ih => exact ih _ (hworld.symm.perform_left hs).symm

section Lemmas

variable {R : α → β → Prop} {S : γ → δ → Prop} {work : Work α} {work' : Work β}

theorem Coupled.bind (h : Coupled R work work') {f : α → Work γ} {f' : β → Work δ}
    (hf : ∀ a b, R a b → Coupled S (f a) (f' b)) : Coupled S (work >>= f) (work' >>= f') := by
  induction h with
  | done h => exact hf _ _ h
  | both hs _ ih => exact .both hs ih
  | left hs _ ih => exact .left hs ih
  | right hs _ ih => exact .right hs ih

theorem Coupled.mono (h : Coupled R work work') {R' : α → β → Prop} (hR : ∀ a b, R a b → R' a b) :
    Coupled R' work work' := by
  induction h with
  | done h => exact .done (hR _ _ h)
  | both hs _ ih => exact .both hs ih
  | left hs _ ih => exact .left hs ih
  | right hs _ ih => exact .right hs ih

end Lemmas

/-! ## Detached work -/

/-- The work has nothing to do with what two runs have in common, and ends in a result of some
kind. -/
def Detached (P : α → Prop) : Work α → Prop
  | .done a => P a
  | .step s next => s.isShared = false ∧ ∀ answer, (next answer).Detached P

@[simp] theorem detached_done {P : α → Prop} {a : α} : Detached P (.done a) ↔ P a := Iff.rfl

@[simp] theorem detached_step {P : α → Prop} {s : Step} {next : s.Answer → Work α} :
    Detached P (.step s next) ↔ s.isShared = false ∧ ∀ answer, (next answer).Detached P := Iff.rfl

theorem Detached.bind {P : α → Prop} {Q : γ → Prop} {work : Work α} (h : work.Detached P)
    {f : α → Work γ} (hf : ∀ a, P a → (f a).Detached Q) : (work >>= f).Detached Q := by
  induction work with
  | done a => exact hf a h
  | step s next ih => exact ⟨h.1, fun answer ↦ ih answer (h.2 answer)⟩

/-- Any two pieces of detached work are coupled. -/
theorem Detached.coupled {P : α → Prop} {Q : β → Prop} {work : Work α} {work' : Work β}
    (h : work.Detached P) (h' : work'.Detached Q) : Coupled (fun a b ↦ P a ∧ Q b) work work' := by
  induction work with
  | done a =>
    induction work' with
    | done b => exact .done ⟨h, h'⟩
    | step s next ih => exact .right h'.1 fun answer ↦ ih answer (h'.2 answer)
  | step s next ih => exact .left h.1 fun answer ↦ ih answer (h.2 answer)

/-! ## Steady work -/

/-- The result of the work depends on nothing but what two runs have in common. -/
def IsSteady (work : Work α) : Prop :=
  Coupled Eq work work

theorem IsSteady.pure {a : α} : (pure a : Work α).IsSteady :=
  .done rfl

theorem IsSteady.perform {s : Step} (hs : s.isShared) : (Work.perform s).IsSteady :=
  .both hs fun _ ↦ .done rfl

theorem IsSteady.log {event : Journal.Event} : (Work.perform (.log event)).IsSteady :=
  .left rfl fun _ ↦ .right rfl fun _ ↦ .done rfl

/-- After steady work two runs go on from the same result. -/
theorem IsSteady.bind_coupled {S : γ → δ → Prop} {work : Work α} (h : work.IsSteady)
    {f : α → Work γ} {f' : α → Work δ} (hf : ∀ a, Coupled S (f a) (f' a)) :
    Coupled S (work >>= f) (work >>= f') :=
  h.bind fun a _ heq ↦ heq ▸ hf a

/-! ## Work that may fail -/

section Attempt

variable {R : Except Failure α → Except Failure β → Prop}
  {S : Except Failure γ → Except Failure δ → Prop}

/-- What is made of the results of two attempts. -/
theorem Coupled.map {attempt : Attempt α} {attempt' : Attempt β}
    (h : Coupled R attempt.run attempt'.run) {f : α → γ} {f' : β → δ}
    (hmap : ∀ result result', R result result' → S (f <$> result) (f' <$> result')) :
    Coupled S (f <$> attempt).run (f' <$> attempt').run := by
  refine Coupled.bind h fun result result' hresult ↦ ?_
  have hmapped := hmap result result' hresult
  cases result <;> cases result' <;> exact .done hmapped

/-- After a steady attempt two runs fail alike or go on from the same result. -/
theorem IsSteady.run_bind_coupled {attempt : Attempt α} (h : attempt.run.IsSteady)
    {f : α → Attempt γ} {f' : α → Attempt δ}
    (herror : ∀ failure, S (.error failure) (.error failure))
    (hf : ∀ a, Coupled S (f a).run (f' a).run) :
    Coupled S (attempt >>= f).run (attempt >>= f').run := by
  refine h.bind_coupled fun result ↦ ?_
  cases result with
  | ok a => exact hf a
  | error failure => exact .done (herror failure)

theorem IsSteady.run_pure {a : α} : (Pure.pure a : Attempt α).run.IsSteady := .done rfl

theorem IsSteady.run_throw {failure : Failure} : (throw failure : Attempt α).run.IsSteady :=
  .done rfl

theorem IsSteady.run_bind {attempt : Attempt α} {f : α → Attempt γ} (h : attempt.run.IsSteady)
    (hf : ∀ a, (f a).run.IsSteady) : (attempt >>= f).run.IsSteady :=
  h.run_bind_coupled (fun _ ↦ rfl) hf

end Attempt

end Work

end RuleWatch
