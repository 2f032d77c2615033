import RuleWatch.Json.Basic

/-!
# Analysis results

An episode in which a rule fired, as the detector records it. It keeps the name that the rule had
at that time, and stays when the rule is deleted.
-/

namespace RuleWatch

/-- An episode before it has an id. Points in time are seconds since 1970. -/
structure Analysis.Episode where
  ruleId : Int
  ruleName : String
  status : String
  count : Int
  /-- When the episode began. -/
  createdAt : Int
  /-- When the episode ended. -/
  updatedAt : Int
  deriving DecidableEq, Repr, Inhabited

/-- An episode that is kept. -/
structure Analysis extends Analysis.Episode where
  id : Int
  deriving DecidableEq, Repr, Inhabited

/-- An analysis result as it is written. -/
def Analysis.toJson (a : Analysis) : Json :=
  .object [("id", .ofInt a.id), ("rule_id", .ofInt a.ruleId), ("rule_name", .string a.ruleName),
    ("status", .string a.status), ("count", .ofInt a.count), ("created_at", .ofInt a.createdAt),
    ("updated_at", .ofInt a.updatedAt)]

end RuleWatch
