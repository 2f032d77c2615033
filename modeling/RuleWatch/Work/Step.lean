import RuleWatch.Detector.Query
import RuleWatch.Journal
import RuleWatch.Store.Analyses
import RuleWatch.Store.Rules

/-!
# Steps

The single things that a service does to what is around it, each of them at once and undivided: one
operation on the store, one request to the detector, a look at the clock, a draw of random bytes, an
entry in the journal.
-/

namespace RuleWatch

open Listing

/-- An operation on the store. -/
inductive Store.Operation
  | findRule (id : Int)
  | insertRule (draft : Rule.Draft)
  | updateRule (id : Int) (changes : Rule.Changes) (draft : Rule.Draft)
  | deleteRule (id : Int)
  | listRules (filter : Option String) (order : Order RuleField) (page : Page)
  | findAnalysis (id : Int)
  | deleteAnalysis (id : Int)
  | listAnalyses (filter : Option String) (order : Order AnalysisField) (page : Page)
  deriving DecidableEq, Repr

namespace Store

/-- What an operation answers. -/
abbrev Operation.Answer : Operation → Type
  | .findRule _ => Option Rule
  | .insertRule _ | .updateRule .. => Except Failure Rule
  | .deleteRule _ | .deleteAnalysis _ => Except Failure Unit
  | .listRules .. => Except Failure (List Rule × Nat)
  | .findAnalysis _ => Option Analysis
  | .listAnalyses .. => Except Failure (List Analysis × Nat)

/-- Carries out an operation at a point in time. -/
def perform (store : Store) (now : Int) : (op : Operation) → op.Answer × Store
  | .findRule id => (store.findRule id, store)
  | .insertRule draft => store.insertRule draft now
  | .updateRule id changes draft => store.updateRule id changes draft now
  | .deleteRule id => store.deleteRule id
  | .listRules filter order page => (store.listRules filter order page, store)
  | .findAnalysis id => (store.findAnalysis id, store)
  | .deleteAnalysis id => store.deleteAnalysis id
  | .listAnalyses filter order page => (store.listAnalyses filter order page, store)

end Store

/-- One thing that a service does. -/
inductive Step
  | store (op : Store.Operation)
  | ask (call : Detector.Call)
  | clock
  | random
  | log (event : Journal.Event)

/-- How many random bytes a draw brings. -/
def drawLength : Nat := 8

/-- What comes back from a step. -/
abbrev Step.Answer : Step → Type
  | .store op => op.Answer
  | .ask _ => Option Bytes
  | .clock => Int
  | .random => Vector UInt8 drawLength
  | .log _ => Unit

end RuleWatch
