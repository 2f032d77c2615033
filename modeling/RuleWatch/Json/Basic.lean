import RuleWatch.Double.Basic
import RuleWatch.Keyed
import RuleWatch.Text.Integer

/-!
# JSON values

Values with two kinds of numbers: integers that fit in 64 bits, signed or unsigned, and doubles.
An object that was read has its members in the order of their keys, each key once; an object that is
made to be written has them in the order in which they are to appear.
-/

namespace RuleWatch

namespace Json

/-- A number of a JSON value: an integer, or a double. -/
inductive Number
  | int (value : Int)
  | double (value : Double)
  deriving DecidableEq, Repr, Inhabited

/-- The number as a double, rounded if it is a large integer. -/
def Number.toDouble : Number → Double
  | .int n => Double.ofInt n
  | .double d => d

end Json

/-- A JSON value. -/
inductive Json
  | null
  | bool (value : Bool)
  | number (value : Json.Number)
  | string (value : String)
  | array (items : List Json)
  | object (members : List (String × Json))
  deriving Repr, Inhabited

namespace Json

/-- The object with the given members; of two with one key the later counts. -/
def ofMembers (members : List (String × Json)) : Json :=
  .object (Keyed.ofList members)

def ofInt (n : Int) : Json := .number (.int n)

def ofNat (n : Nat) : Json := .number (.int n)

def ofDouble (d : Double) : Json := .number (.double d)

/-- What there is, or null. -/
def ofOption {α : Type} (f : α → Json) : Option α → Json
  | some a => f a
  | none => .null

/-- The items, each as a value. -/
def ofList {α : Type} (f : α → Json) (as : List α) : Json :=
  .array (as.map f)

end Json

end RuleWatch
