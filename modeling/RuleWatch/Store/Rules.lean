import RuleWatch.Store.Basic

/-!
# Keeping rules

What the store does with rules. No two rules have one name. A change writes only the parts that it
names, with the values that were found good for them; the two halves of a condition are one part.
-/

namespace RuleWatch.Store

open Listing

/-- A threshold as a database column gives it back: zero has no sign there, and there is nothing
that is not a number. -/
def storedThreshold (d : Double) : Option Double :=
  if d.isNaN then none else if d.isZero then some Double.zero else some d

/-- A condition as the database gives it back. -/
def storedCondition (c : Condition) : Condition :=
  { c with threshold := c.threshold.bind storedThreshold }

/-- A draft as the database gives it back. -/
def storedDraft (d : Rule.Draft) : Rule.Draft :=
  { d with subhealth := storedCondition d.subhealth, fault := storedCondition d.fault }

/-- What the database says when a name is taken. -/
def nameTaken : Failure :=
  .conflict .rule "UNIQUE constraint failed: rules.name"

/-- A name that no rule has, except for the one with the given id. -/
def isFree (rules : List Rule) (name : String) (id : Int) : Bool :=
  rules.all fun r ↦ r.id == id || r.name != name

/-- Keeps a new rule, made and changed at the same time. -/
def insertRule (store : Store) (draft : Rule.Draft) (now : Int) : Except Failure Rule × Store :=
  let id := store.rules.nextId
  if isFree store.rules.rows draft.name id then
    let rule : Rule := { storedDraft draft with id, createdAt := now, updatedAt := now }
    (.ok rule, { store with rules := store.rules.push rule })
  else (.error nameTaken, store)

def findRule (store : Store) (id : Int) : Option Rule :=
  store.rules.find? RuleField id

/-- The rule with the parts that the changes name set to their values in the draft. -/
def writeParts (rule : Rule) (changes : Rule.Changes) (draft : Rule.Draft) (now : Int) : Rule :=
  { rule with
    name := if changes.name.isSome then draft.name else rule.name
    expression := if changes.expression.isSome then draft.expression else rule.expression
    subhealth := if changes.subhealth.isGiven then draft.subhealth else rule.subhealth
    fault := if changes.fault.isGiven then draft.fault else rule.fault
    severity := if changes.severity.isSome then draft.severity else rule.severity
    duration := if changes.duration.isSome then draft.duration else rule.duration
    updatedAt := now }

/-- Writes the parts of a rule that the changes name, with the values that they have in the draft,
and the time of the change. -/
def updateRule (store : Store) (id : Int) (changes : Rule.Changes) (draft : Rule.Draft)
    (now : Int) : Except Failure Rule × Store :=
  match store.findRule id with
  | none => (.error (.notFound .rule id), store)
  | some rule =>
    let rule := writeParts rule changes (storedDraft draft) now
    if isFree store.rules.rows rule.name id then
      (.ok rule, { store with rules := store.rules.replace RuleField rule })
    else (.error nameTaken, store)

def deleteRule (store : Store) (id : Int) : Except Failure Unit × Store :=
  match store.findRule id with
  | none => (.error (.notFound .rule id), store)
  | some _ => (.ok (), { store with rules := store.rules.erase RuleField id })

/-- One page of the rules whose name contains the filter, and the number of all of them. -/
def listRules (store : Store) (filter : Option String) (order : Order RuleField) (page : Page) :
    Except Failure (List Rule × Nat) :=
  list (fun r ↦ r.name) filter order page store.rules.rows

/-- The number of rules whose name contains the filter. -/
def countRules (store : Store) (filter : Option String) : Except Failure Nat :=
  (matching (fun (r : Rule) ↦ r.name) filter store.rules.rows).map List.length

end RuleWatch.Store
