import RuleWatch.Service.Basic

/-!
# The rule service

What can be done with rules. A change is checked, kept, and then announced to the detector; what
fails the check never comes to the store, and what the detector does not acknowledge stays kept.
The gate that expressions have to pass is a parameter.
-/

namespace RuleWatch.Service.Rules

open Listing

/-- One page of rules, and the number of rules that match. -/
def list (filter : Option String) (order : Order RuleField) (page : Page) :
    Attempt (List Rule × Nat) := do
  ofStore (← store (.listRules filter order page))

def get (id : Int) : Attempt Rule := do
  match ← store (.findRule id) with
  | some rule => return rule
  | none => throw (.notFound .rule id)

/-- Lets a draft pass that may become a rule. -/
def check (gate : Expression.Gate) (draft : Rule.Draft) : Attempt Unit :=
  ExceptT.mk (pure ((draft.checkBy gate).mapError Failure.invalidRule))

/-- Tells the detector that the rules have changed, once. -/
def announce (ruleId : Int) : Attempt Unit := do
  let answer ← ask Detector.ruleSetChanged
  match Detector.acknowledge Detector.ruleSetChanged answer with
  | .ok _ => return ()
  | .error failure =>
    log (.notificationFailed ruleId failure.message)
    throw (.unannounced ruleId failure)

/-- Makes a rule of a draft. -/
def create (gate : Expression.Gate) (draft : Rule.Draft) : Attempt Rule := do
  let draft := draft.normalize
  check gate draft
  let rule ← ofStore (← store (.insertRule draft))
  log (.ruleCreated rule.id rule.name)
  announce rule.id
  return rule

/-- Changes a rule: what it would become is checked, and the parts that are named are written. -/
def update (gate : Expression.Gate) (id : Int) (changes : Rule.Changes) : Attempt Rule := do
  let current ← get id
  let merged := current.merged changes
  check gate merged
  let rule ← ofStore (← store (.updateRule id changes merged))
  log (.ruleUpdated rule.id rule.name)
  announce rule.id
  return rule

def delete (id : Int) : Attempt Unit := do
  ofStore (← store (.deleteRule id))
  log (.ruleDeleted id)
  announce id

end RuleWatch.Service.Rules
