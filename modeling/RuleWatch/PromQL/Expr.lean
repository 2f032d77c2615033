import RuleWatch.PromQL.Function
import RuleWatch.PromQL.Matcher

/-!
# Query expressions

The tree of an expression, as far as it decides whether the expression means something, and the kind
of value that it stands for. An expression means something when every part of it has a kind.
-/

namespace RuleWatch.PromQL

/-- Operators between two operands. -/
inductive Operator
  | add | sub | mul | div | mod | pow | atan2
  | eq | ne | lt | gt | le | ge
  | and | or | unless
  deriving DecidableEq, Repr

namespace Operator

/-- The operators that compare. -/
def compares : Operator → Bool
  | .eq | .ne | .lt | .gt | .le | .ge => true
  | _ => false

/-- The operators on sets of series. -/
def isOnSets : Operator → Bool
  | .and | .or | .unless => true
  | _ => false

/-- How tightly an operator binds. -/
def precedence : Operator → Nat
  | .or => 1
  | .and | .unless => 2
  | .eq | .ne | .lt | .gt | .le | .ge => 3
  | .add | .sub => 4
  | .mul | .div | .mod | .atan2 => 5
  | .pow => 6

/-- How tightly an operator must bind to stand in the right operand of another. Only powers group to
the right. -/
def rightPrecedence (op : Operator) : Nat :=
  if op = .pow then op.precedence else op.precedence + 1

end Operator

/-- How the series of two operands are matched. -/
structure Matching where
  /-- A comparison gives zero or one. -/
  bool : Bool
  /-- Whether only these labels count, or all but these. -/
  labels : Option (Bool × List (List Char))
  /-- Many series on one side match one on the other, and take these labels from it. -/
  group : Option (List (List Char))

/-- What has been said about the time at which a selector looks. -/
structure Timing where
  shifted : Bool
  pinned : Bool
  deriving DecidableEq, Repr

/-- Nothing has been said about the time. -/
def Timing.plain : Timing := ⟨false, false⟩

/-- A query expression. -/
inductive Expr
  | number (d : Double)
  | string (s : List Char)
  | vector (s : Selector) (timing : Timing)
  | matrix (s : Selector) (timing : Timing)
  | subquery (inner : Expr) (timing : Timing)
  | paren (inner : Expr)
  | negated (inner : Expr)
  | binary (op : Operator) (matching : Matching) (left right : Expr)
  | aggregate (a : Aggregator) (args : List Expr)
  | call (f : Function) (args : List Expr)

namespace Expr

/-- An expression after a minus sign. A number takes the sign. -/
def negate : Expr → Expr
  | number d => number d.neg
  | e => negated e

/-- A selector looks at a length of time; only one that nothing has been said about can. -/
def overRange? : Expr → Option Expr
  | vector s timing => if timing = .plain then some (matrix s timing) else none
  | _ => none

/-- A selector with something said about its time. -/
def mapTiming? (f : Timing → Option Timing) : Expr → Option Expr
  | vector s timing => (f timing).map (vector s)
  | matrix s timing => (f timing).map (matrix s)
  | subquery inner timing => (f timing).map (subquery inner)
  | _ => none

/-- A selector that looks at another time; it can be shifted once. -/
def shift? : Expr → Option Expr :=
  mapTiming? fun t ↦ if t.shifted then none else some { t with shifted := true }

/-- A selector that looks at a fixed time; it can be pinned once. -/
def pin? : Expr → Option Expr :=
  mapTiming? fun t ↦ if t.pinned then none else some { t with pinned := true }

end Expr

/-! ## Kinds -/

namespace Matching

/-- Labels that count for the match are not also taken from one side. -/
def labelsDisjoint (m : Matching) : Bool :=
  match m.labels, m.group with
  | some (true, on), some group => on.all fun l ↦ !group.contains l
  | _, _ => true

/-- Labels are named for the match. -/
def namesLabels (m : Matching) : Bool :=
  match m.labels with
  | some (_, labels) => !labels.isEmpty
  | none => false

end Matching

namespace Kind

/-- The kinds that operators work on. -/
def isOperand : Kind → Bool
  | .scalar | .vector => true
  | _ => false

/-- The kind of an operation on two operands, if there is such an operation. -/
def ofBinary? (op : Operator) (m : Matching) (left right : Kind) : Option Kind :=
  let scalars := left == .scalar && right == .scalar
  let vectors := left == .vector && right == .vector
  if !left.isOperand || !right.isOperand then none
  else if m.bool && !op.compares then none
  else if op.compares && scalars && !m.bool then none
  else if !m.labelsDisjoint then none
  else if op.isOnSets && (!vectors || m.group.isSome) then none
  else if m.namesLabels && !vectors then none
  else some (if scalars then .scalar else .vector)

/-- The kinds of the arguments of an aggregation. -/
def ofAggregator : Aggregator → List Kind
  | .topk | .bottomk | .quantile => [.scalar, .vector]
  | .countValues => [.string, .vector]
  | _ => [.vector]

/-- The kinds of arguments are those of a function. -/
def fit (f : Function) : Nat → List Kind → Bool
  | _, [] => true
  | index, kind :: kinds => f.param? index == some kind && fit f (index + 1) kinds

end Kind

namespace Expr

/-- A function at a number where its value is known to be none; the kind of the number is not looked
at then. -/
def isDegenerate (f : Function) : List Expr → Bool
  | number d :: _ =>
    let odd := d.isNaN || d.isInfinite
    if f.name = "exp" then odd
    else if f.name = "ln" ∨ f.name = "log2" ∨ f.name = "log10" then odd || d.isNonPositive
    else false
  | _ => false

mutual

/-- The kind of value that an expression stands for, if it means something. -/
def kind? : Expr → Option Kind
  | number _ => some .scalar
  | string _ => some .string
  | vector s _ => if s.isProper then some .vector else none
  | matrix s _ => if s.isProper then some .matrix else none
  | subquery inner _ => if inner.kind? = some .vector then some .matrix else none
  | paren inner => inner.kind?
  | negated inner => inner.kind?.filter Kind.isOperand
  | binary op m left right => do Kind.ofBinary? op m (← left.kind?) (← right.kind?)
  | aggregate a args => do
    if (← kinds? args) = Kind.ofAggregator a then return .vector else none
  | call f args => do
    let kinds ← kinds? args
    if f.takes kinds.length && (isDegenerate f args || Kind.fit f 0 kinds) then return f.result
    else none

/-- The kinds of several expressions. -/
def kinds? : List Expr → Option (List Kind)
  | [] => some []
  | arg :: args => do
    let kind ← arg.kind?
    let kinds ← kinds? args
    return kind :: kinds

end

end Expr

end RuleWatch.PromQL
