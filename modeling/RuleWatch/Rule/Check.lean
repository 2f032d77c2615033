import RuleWatch.Expression
import RuleWatch.Interval
import RuleWatch.Rule.Basic
import RuleWatch.Severity
import RuleWatch.Text.Utf8

/-!
# Checking rules

What a draft must be like to become a rule. The checks run in a fixed order, and the first that
fails is reported.
-/

namespace RuleWatch.Rule

/-- The check that a draft fails. -/
inductive Invalid
  | name
  | expression (fault : Expression.Fault)
  | subhealthThreshold
  | faultThreshold
  | severity
  | duration (text : String) (fault : Interval.Fault)
  deriving DecidableEq, Repr

/-- What is wrong with the draft, in words. -/
def Invalid.message : Invalid → String
  | .name => "name must be 1 to 64 characters of [A-Za-z0-9_]"
  | .expression fault => "expression is not valid PromQL: " ++ fault.message
  | .subhealthThreshold => "subhealth threshold must be a finite number"
  | .faultThreshold => "fault threshold must be a finite number"
  | .severity => "severity must be one of warning, error, critical"
  | .duration text fault =>
    "duration must be a positive interval such as 5m: " ++ fault.message text

/-- The length that a name may have. -/
def maxNameLength : Nat := 64

/-- A character that a name may hold. -/
def isNameChar (c : Char) : Bool :=
  c.isAlphanum || c == '_'

/-- A name is made of ASCII letters, digits and underscores, and is neither empty nor too long. It
is looked at byte by byte, and its length is counted in bytes. -/
def isName (s : String) : Bool :=
  let bytes := Text.toBytes s
  1 ≤ bytes.length && bytes.length ≤ maxNameLength
    && bytes.all fun b ↦ isNameChar (Char.ofNat b.toNat)

/-- A condition has a finite threshold, and no condition needs none. -/
def isComplete (c : Condition) : Bool :=
  match c.kind with
  | some kind => kind.isEmpty || c.threshold.any Double.isFinite
  | none => true

/-- Passes what `b` holds of, and fails otherwise. -/
def demand {ε : Type} (b : Bool) (fault : ε) : Except ε Unit :=
  if b then .ok () else .error fault

/-- Lets a draft pass that may become a rule, if the gate lets its expression pass. -/
def Draft.checkBy (gate : Expression.Gate) (d : Draft) : Except Invalid Unit := do
  demand (isName d.name) .name
  (gate d.expression).mapError .expression
  demand (isComplete d.subhealth) .subhealthThreshold
  demand (isComplete d.fault) .faultThreshold
  demand (Severity.ofName? d.severity).isSome .severity
  let _ ← (Interval.parsePositive d.duration).mapError (.duration d.duration)

/-- Lets a draft pass that may become a rule. -/
def Draft.check (d : Draft) : Except Invalid Unit :=
  d.checkBy Expression.check

end RuleWatch.Rule
