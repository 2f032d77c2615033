import RuleWatch.Json.Decoder

/-!
# Severities

The three levels that a rule can have.
-/

namespace RuleWatch

/-- How grave it is when a rule fires, from the least to the gravest. -/
inductive Severity
  | warning
  | error
  | critical
  deriving DecidableEq, Repr

namespace Severity

/-- The place among the severities. -/
def rank : Severity → Nat
  | .warning => 0
  | .error => 1
  | .critical => 2

instance : LT Severity := ⟨fun a b ↦ a.rank < b.rank⟩

instance (a b : Severity) : Decidable (a < b) :=
  inferInstanceAs (Decidable (a.rank < b.rank))

def name : Severity → String
  | .warning => "warning"
  | .error => "error"
  | .critical => "critical"

/-- The severity of a name, which is written in small letters. -/
def ofName? (s : String) : Option Severity :=
  if s = "warning" then some .warning
  else if s = "error" then some .error
  else if s = "critical" then some .critical
  else none

theorem ofName?_name (s : Severity) : ofName? s.name = some s := by
  cases s <;> rfl

/-- What is said of a text that names no severity. -/
def unknownMessage (s : String) : String :=
  "unknown severity: " ++ s

open Json in
/-- A severity is given by its name, or by an object with its name as the only key and no value. -/
def decoder : Decoder Severity
  | .string (some s) => match ofName? s with
    | some severity => .ok severity
    | none => .error .shape
  | .string none => .error .text
  | .object ((none, o) :: _) _ => .error (Decoder.mismatch o)
  | .object [] _ => .error .text
  | .object ((some key, o) :: rest) whole => match ofName? key with
    | none => .error .shape
    | some severity => match o with
      | .null => if rest.isEmpty && whole then .ok severity else .error .text
      | o => .error (Decoder.mismatch o)
  | _ => .error .text

end Severity

end RuleWatch
