/-!
# Results

When a result is a success: one that was made of another, and one that came after another.
-/

namespace RuleWatch.Result

variable {ε ε' α β : Type} {x : Except ε α} {a : α} {b : β}

theorem mapError_eq_ok_iff {f : ε → ε'} : x.mapError f = .ok a ↔ x = .ok a := by
  cases x with
  | ok b => exact ⟨fun h ↦ by cases h; rfl, fun h ↦ by cases h; rfl⟩
  | error e => exact ⟨fun h ↦ by contradiction, fun h ↦ by contradiction⟩

theorem toOption_eq_some_iff : x.toOption = some a ↔ x = .ok a := by
  cases x <;> simp [Except.toOption]

theorem map_eq_ok_iff {f : α → β} : f <$> x = .ok b ↔ ∃ a, x = .ok a ∧ f a = b := by
  cases x <;> simp [Functor.map, Except.map]

theorem bind_eq_ok_iff {f : α → Except ε β} : (x >>= f) = .ok b ↔ ∃ a, x = .ok a ∧ f a = .ok b := by
  cases x <;> simp [bind, Except.bind]

theorem bind_unit_eq_ok_iff {x : Except ε Unit} {f : Unit → Except ε β} :
    (x >>= f) = .ok b ↔ x = .ok () ∧ f () = .ok b := by
  cases x <;> simp [bind, Except.bind]

/-! ## Checks one after another -/

variable {check : α → Except ε Unit} {as : List α} {e : ε}

theorem forM_cons_of_ok (h : check a = .ok ()) : (a :: as).forM check = as.forM check := by
  change (check a >>= fun _ ↦ as.forM check) = _
  rw [h]
  rfl

theorem forM_cons_of_error (h : check a = .error e) : (a :: as).forM check = .error e := by
  change (check a >>= fun _ ↦ as.forM check) = _
  rw [h]
  rfl

/-- All checks are passed. -/
theorem forM_eq_ok_iff : as.forM check = .ok () ↔ ∀ a ∈ as, check a = .ok () := by
  induction as with
  | nil => exact iff_of_true rfl (by simp)
  | cons a as ih =>
    change (check a >>= fun _ ↦ as.forM check) = _ ↔ _
    rw [bind_unit_eq_ok_iff, ih, List.forall_mem_cons]

/-- The first check that is not passed decides, and those after it do not matter. -/
theorem forM_append_of_error {before after : List α} (h : ∀ b ∈ before, check b = .ok ())
    (ha : check a = .error e) : (before ++ a :: after).forM check = .error e := by
  induction before with
  | nil => exact forM_cons_of_error ha
  | cons b before ih =>
    rw [List.forall_mem_cons] at h
    rw [List.cons_append, forM_cons_of_ok h.1]
    exact ih h.2

/-- One check is the first that is not passed. -/
theorem exists_first_of_forM (h : as.forM check = .error e) :
    ∃ before a after, as = before ++ a :: after ∧ (∀ b ∈ before, check b = .ok ()) ∧
      check a = .error e := by
  induction as with
  | nil => contradiction
  | cons a as ih =>
    cases ha : check a with
    | error e' =>
      obtain rfl : e' = e := Except.error.inj ((forM_cons_of_error ha).symm.trans h)
      exact ⟨[], a, as, rfl, by simp, ha⟩
    | ok u =>
      obtain ⟨before, a', after, rfl, hbefore, ha'⟩ := ih ((forM_cons_of_ok ha).symm.trans h)
      exact ⟨a :: before, a', after, rfl, List.forall_mem_cons.mpr ⟨ha, hbefore⟩, ha'⟩

end RuleWatch.Result
