import RuleWatch.PromQL.Grammar
import RuleWatch.Text.Blank

/-!
# Expressions

The one gate for query expressions, used for rules and for queries alike: an expression is not
blank and follows the query grammar. It is not evaluated here, and it is passed on as it is.
-/

namespace RuleWatch.Expression

/-- Why a text is no expression. -/
inductive Fault
  | empty
  | ungrammatical
  deriving DecidableEq, Repr

/-- What is wrong with the text, in words. -/
def Fault.message : Fault → String
  | .empty => "expression is empty"
  | .ungrammatical => "the query grammar does not allow it"

/-- A gate for expressions: it lets some texts pass, and says what is wrong with any other. -/
abbrev Gate := String → Except Fault Unit

/-- The gate of a grammar, which accepts some texts: blank texts do not come to it. -/
def checkBy (accepts : String → Bool) : Gate := fun s ↦
  if Text.isBlankText s then .error .empty
  else if accepts s then .ok ()
  else .error .ungrammatical

/-- Lets an expression pass, and says what is wrong with any other text. -/
def check : Gate :=
  checkBy PromQL.accepts

end RuleWatch.Expression
