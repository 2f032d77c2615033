import RuleWatch.Store.Basic

/-!
# Keeping analysis results

What the store does with analysis results. The detector writes them; a rule that is gone leaves
them where they are.
-/

namespace RuleWatch.Store

open Listing

/-- Keeps a new analysis result. -/
def insertAnalysis (store : Store) (episode : Analysis.Episode) : Analysis × Store :=
  let analysis : Analysis := { episode with id := store.analyses.nextId }
  (analysis, { store with analyses := store.analyses.push analysis })

def findAnalysis (store : Store) (id : Int) : Option Analysis :=
  store.analyses.find? AnalysisField id

def deleteAnalysis (store : Store) (id : Int) : Except Failure Unit × Store :=
  match store.findAnalysis id with
  | none => (.error (.notFound .analysis id), store)
  | some _ => (.ok (), { store with analyses := store.analyses.erase AnalysisField id })

/-- One page of the results whose rule name contains the filter, and the number of all of them. -/
def listAnalyses (store : Store) (filter : Option String) (order : Order AnalysisField)
    (page : Page) : Except Failure (List Analysis × Nat) :=
  list (fun a ↦ a.ruleName) filter order page store.analyses.rows

/-- The number of results whose rule name contains the filter. -/
def countAnalyses (store : Store) (filter : Option String) : Except Failure Nat :=
  (matching (fun (a : Analysis) ↦ a.ruleName) filter store.analyses.rows).map List.length

end RuleWatch.Store
