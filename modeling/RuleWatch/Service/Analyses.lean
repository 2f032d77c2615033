import RuleWatch.Service.Basic

/-!
# Access to analysis results

What can be done with analysis results: to list and delete them, and to ask for the metrics behind
one of them.
-/

namespace RuleWatch.Service.Analyses

open Listing

/-- One page of analysis results, and the number of those that match. -/
def list (filter : Option String) (order : Order AnalysisField) (page : Page) :
    Attempt (List Analysis × Nat) := do
  ofStore (← store (.listAnalyses filter order page))

def get (id : Int) : Attempt Analysis := do
  match ← store (.findAnalysis id) with
  | some analysis => return analysis
  | none => throw (.notFound .analysis id)

def delete (id : Int) : Attempt Unit := do
  ofStore (← store (.deleteAnalysis id))
  log (.analysisDeleted id)

/-- The metrics behind an analysis result: the expression of its rule over the time of the episode.
Neither the result nor its rule may be gone. -/
def rawData (id : Int) : Attempt Json := do
  let analysis ← get id
  match ← store (.findRule analysis.ruleId) with
  | none => throw (.notFound .rule analysis.ruleId)
  | some rule =>
    let range := TimeRange.ofEpisode analysis.createdAt analysis.updatedAt
    log (.queryingWindow id rule.id range)
    query (.window rule.expression range)

end RuleWatch.Service.Analyses
