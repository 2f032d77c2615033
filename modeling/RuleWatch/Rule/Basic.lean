import RuleWatch.Double.Basic

/-!
# Rules

A rule watches a query expression: it has a name, two optional conditions on the value, a severity,
and the interval for which a condition has to hold. A draft is what a client hands in, a rule is
what is kept, with an id and two points in time, and changes say which parts of a rule get a new
value.

A condition of an empty kind is no condition, and a threshold without a condition means nothing:
`Condition.normalize` drops both.
-/

namespace RuleWatch

/-- A condition on a value, or no condition: the kind of comparison, and the threshold. -/
structure Condition where
  kind : Option String
  threshold : Option Double
  deriving DecidableEq, Repr, Inhabited

namespace Condition

/-- No condition. -/
def none : Condition := ⟨.none, .none⟩

/-- The condition, or no condition at all if its kind is absent or empty. -/
def normalize (c : Condition) : Condition :=
  match c.kind with
  | some kind => if kind.isEmpty then none else c
  | .none => none

/-- What stays of a condition after changes: each half that is given replaces the half before. -/
def merge (current changes : Condition) : Condition :=
  normalize ⟨changes.kind.or current.kind, changes.threshold.or current.threshold⟩

/-- At least one half is given. -/
def isGiven (c : Condition) : Bool :=
  c.kind.isSome || c.threshold.isSome

end Condition

/-- A rule as a client hands it in. -/
structure Rule.Draft where
  name : String
  expression : String
  subhealth : Condition
  fault : Condition
  severity : String
  duration : String
  deriving DecidableEq, Repr, Inhabited

/-- A rule that is kept. Points in time are seconds since 1970. -/
structure Rule extends Rule.Draft where
  id : Int
  createdAt : Int
  updatedAt : Int
  deriving DecidableEq, Repr, Inhabited

namespace Rule

/-- The draft with both conditions normalized. -/
def Draft.normalize (d : Draft) : Draft :=
  { d with subhealth := d.subhealth.normalize, fault := d.fault.normalize }

/-- New values for some parts of a rule. -/
structure Changes where
  name : Option String
  expression : Option String
  subhealth : Condition
  fault : Condition
  severity : Option String
  duration : Option String
  deriving DecidableEq, Repr, Inhabited

/-- No changes. -/
def Changes.none : Changes := ⟨.none, .none, .none, .none, .none, .none⟩

/-- The draft that a rule becomes under changes. -/
def merged (rule : Rule) (changes : Changes) : Draft where
  name := changes.name.getD rule.name
  expression := changes.expression.getD rule.expression
  subhealth := rule.subhealth.merge changes.subhealth
  fault := rule.fault.merge changes.fault
  severity := changes.severity.getD rule.severity
  duration := changes.duration.getD rule.duration

end Rule

end RuleWatch
