/-!
# Functions of query expressions

The functions that an expression can call, each with the kinds of its arguments and of its result.
-/

namespace RuleWatch.PromQL

/-- What a query expression can stand for. -/
inductive Kind
  | scalar
  | string
  /-- One value for each series. -/
  | vector
  /-- Values over a length of time for each series. -/
  | matrix
  deriving DecidableEq, Repr

/-- How many arguments a function takes. -/
inductive Arity
  /-- As many as it has kinds. -/
  | exact
  /-- The last one may be left out. -/
  | lastOptional
  /-- The last one may be left out or come several times. -/
  | lastRepeated
  deriving DecidableEq, Repr

/-- A function: its name, the kinds of its arguments, how many it takes, and the kind of its
result. -/
structure Function where
  name : String
  params : List Kind
  arity : Arity
  result : Kind
  deriving DecidableEq, Repr

namespace Function

/-- A function of exactly these arguments that gives a vector. -/
def toVector (name : String) (params : List Kind) : Function :=
  ⟨name, params, .exact, .vector⟩

/-- The functions of one vector. -/
def ofVector : List Function :=
  (["abs", "absent", "acos", "acosh", "asin", "asinh", "atan", "atanh", "ceil", "cos", "cosh",
    "deg", "exp", "floor", "histogram_count", "histogram_sum", "ln", "log10", "log2", "rad", "sgn",
    "sin", "sinh", "sort", "sort_desc", "sqrt", "tan", "tanh", "timestamp"]).map
    (toVector · [.vector])

/-- The functions of one matrix. -/
def ofMatrix : List Function :=
  (["absent_over_time", "avg_over_time", "changes", "count_over_time", "delta", "deriv", "idelta",
    "increase", "irate", "last_over_time", "max_over_time", "min_over_time", "present_over_time",
    "rate", "resets", "stddev_over_time", "stdvar_over_time", "sum_over_time"]).map
    (toVector · [.matrix])

/-- The functions of a vector that stands for the present time when it is left out. -/
def ofTime : List Function :=
  (["day_of_month", "day_of_week", "day_of_year", "days_in_month", "hour", "minute", "month",
    "year"]).map fun name ↦ ⟨name, [.vector], .lastOptional, .vector⟩

/-- All functions. -/
def all : List Function :=
  ofVector ++ ofMatrix ++ ofTime ++
  [toVector "clamp" [.vector, .scalar, .scalar],
   toVector "clamp_max" [.vector, .scalar],
   toVector "clamp_min" [.vector, .scalar],
   toVector "histogram_fraction" [.scalar, .scalar, .vector],
   toVector "histogram_quantile" [.scalar, .vector],
   toVector "holt_winters" [.matrix, .scalar, .scalar],
   ⟨"label_join", [.vector, .string, .string, .string], .lastRepeated, .vector⟩,
   toVector "label_replace" [.vector, .string, .string, .string, .string],
   ⟨"pi", [], .exact, .scalar⟩,
   toVector "predict_linear" [.matrix, .scalar],
   toVector "quantile_over_time" [.scalar, .matrix],
   ⟨"round", [.vector, .scalar], .lastOptional, .vector⟩,
   ⟨"scalar", [.vector], .exact, .scalar⟩,
   ⟨"time", [], .exact, .scalar⟩,
   toVector "vector" [.scalar]]

/-- The function of a name. -/
def ofName? (name : List Char) : Option Function :=
  let name := String.ofList name
  all.find? fun f ↦ f.name == name

/-- The function can be called with so many arguments. -/
def takes (f : Function) (count : Nat) : Bool :=
  match f.arity with
  | .exact => count == f.params.length
  | .lastOptional => count == f.params.length || count + 1 == f.params.length
  | .lastRepeated => f.params.length ≤ count + 1

/-- The kind of the argument at a place; those after the last are like the last. -/
def param? (f : Function) (index : Nat) : Option Kind :=
  f.params[min index (f.params.length - 1)]?

end Function

end RuleWatch.PromQL
