import RuleWatch.Failure
import RuleWatch.Work.Step

/-!
# Work

A piece of work is a program of steps: it ends with a result, or does a step and goes on in a way
that depends on the answer. What a service does is work, and how its steps fall in with those of
other work is decided by what runs it.
-/

namespace RuleWatch

/-- A program of steps. -/
inductive Work (α : Type)
  | done (result : α)
  | step (s : Step) (next : s.Answer → Work α)

namespace Work

variable {α β : Type}

/-- One piece of work after another. -/
def andThen (work : Work α) (f : α → Work β) : Work β :=
  match work with
  | done a => f a
  | step s next => step s fun answer ↦ (next answer).andThen f

instance : Monad Work where
  pure := done
  bind := andThen

/-- A single step. -/
def perform (s : Step) : Work s.Answer :=
  step s done

end Work

/-- Work that may fail. -/
abbrev Attempt (α : Type) := ExceptT Failure Work α

end RuleWatch
