import RuleWatch.PromQL.Parser

/-!
# The query grammar

The texts that are query expressions: they fall into tokens, the tokens form an expression, and the
expression means something.
-/

namespace RuleWatch.PromQL

/-- The expression that a text is. -/
def parse? (s : String) : Option Expr := do
  let e ← Expr.parse? (← tokens? s)
  if e.kind?.isSome then return e else none

/-- The text is a query expression. -/
def accepts (s : String) : Bool :=
  (parse? s).isSome

end RuleWatch.PromQL
