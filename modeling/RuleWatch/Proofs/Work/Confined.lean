import RuleWatch.Proofs.Work.Deed

/-!
# Confined work

Work is confined to steps and results of some kinds when it does no others, whatever comes back from
its steps. Unlike a conduct (`Work.Keeps`), confinement does not look at the deeds before a step,
and therefore comes cheap: it passes from the parts of a piece of work to the whole.
-/

namespace RuleWatch.Work

variable {α β : Type} {P P' : Step → Prop}

/-- Each step of the work is of one kind, and its result is of another, whatever comes back from the
steps. -/
def Confined (P : Step → Prop) (Q : α → Prop) : Work α → Prop
  | .done a => Q a
  | .step s next => P s ∧ ∀ answer, (next answer).Confined P Q

section Work

variable {Q : α → Prop} {work : Work α}

theorem Confined.pure {a : α} (h : Q a) : (pure a : Work α).Confined P Q := h

theorem Confined.perform {s : Step} {Q : s.Answer → Prop} (h : P s) (hQ : ∀ answer, Q answer) :
    (Work.perform s).Confined P Q :=
  ⟨h, hQ⟩

theorem Confined.bind {R : β → Prop} {f : α → Work β} (h : work.Confined P Q)
    (hf : ∀ a, Q a → (f a).Confined P R) : (work >>= f).Confined P R := by
  induction work with
  | done a => exact hf a h
  | step s next ih => exact ⟨h.1, fun answer ↦ ih answer (h.2 answer)⟩

theorem Confined.mono {Q' : α → Prop} (h : work.Confined P Q) (hP : ∀ s, P s → P' s)
    (hQ : ∀ a, Q a → Q' a) : work.Confined P' Q' := by
  induction work with
  | done a => exact hQ a h
  | step s next ih => exact ⟨hP s h.1, fun answer ↦ ih answer (h.2 answer)⟩

/-- Work that is confined in two ways is confined in both at once. -/
theorem Confined.and {Q' : α → Prop} (h : work.Confined P Q) (h' : work.Confined P' Q') :
    work.Confined (fun s ↦ P s ∧ P' s) fun a ↦ Q a ∧ Q' a := by
  induction work with
  | done a => exact ⟨h, h'⟩
  | step s next ih => exact ⟨⟨h.1, h'.1⟩, fun answer ↦ ih answer (h.2 answer) (h'.2 answer)⟩

/-- Confined work keeps to its kind of steps after whatever was done before. -/
theorem Confined.keeps (h : work.Confined P Q) (deeds : List Deed) :
    work.Keeps (fun _ s ↦ P s) (fun _ a ↦ Q a) deeds := by
  induction work generalizing deeds with
  | done a => exact h
  | step s next ih => exact ⟨h.1, fun world ↦ ih _ (h.2 _) _⟩

/-- The deeds of confined work are of its kind, whatever was done before and whatever happens
between them. -/
theorem Confined.keeps_deeds (h : work.Confined P Q) (deeds : List Deed) :
    work.Keeps (fun _ _ ↦ True)
      (fun deeds' a ↦ ∃ new, deeds' = deeds ++ new ∧ (∀ d ∈ new, P d.step) ∧ Q a) deeds := by
  induction work generalizing deeds with
  | done a => exact ⟨[], (List.append_nil _).symm, by simp, h⟩
  | step s next ih =>
    refine ⟨trivial, fun world ↦ (ih _ (h.2 _) _).imp ?_⟩
    rintro deeds' a ⟨new, rfl, hnew, ha⟩
    exact ⟨_ :: new, List.append_assoc .., List.forall_mem_cons.mpr ⟨h.1, hnew⟩, ha⟩

/-- All deeds of confined work are of its kind, and so is its result. -/
theorem Confined.run (h : work.Confined P Q) (world : World) :
    (∀ d ∈ work.deeds world, P d.step) ∧ Q (work.run world).1 := by
  induction work generalizing world with
  | done a => exact ⟨by simp [deeds], h⟩
  | step s next ih =>
    obtain ⟨hdeeds, hresult⟩ := ih (world.perform s).1 (h.2 _) (world.perform s).2
    exact ⟨List.forall_mem_cons.mpr ⟨h.1, hdeeds⟩, hresult⟩

end Work

/-! ## Work that may fail -/

section Attempt

variable {attempt : Attempt α} {f : α → Attempt β}

theorem Confined.run_pure {a : α} :
    (Pure.pure a : Attempt α).run.Confined P fun _ ↦ True := trivial

theorem Confined.run_throw {failure : Failure} :
    (throw failure : Attempt α).run.Confined P fun _ ↦ True := trivial

theorem Confined.run_bind (h : attempt.run.Confined P fun _ ↦ True)
    (hf : ∀ a, (f a).run.Confined P fun _ ↦ True) :
    (attempt >>= f).run.Confined P fun _ ↦ True :=
  h.bind fun result _ ↦ by
    cases result with
    | ok a => exact hf a
    | error failure => trivial

theorem Confined.run_map {g : α → β} (h : attempt.run.Confined P fun _ ↦ True) :
    (g <$> attempt).run.Confined P fun _ ↦ True :=
  h.run_bind fun _ ↦ .run_pure

end Attempt

end RuleWatch.Work
