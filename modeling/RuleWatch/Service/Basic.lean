import RuleWatch.Work.Basic

/-!
# What services are made of

The single steps of a service as tasks, with the failures of the store and of the detector turned
into failures of the service.
-/

namespace RuleWatch.Service

/-- An entry in the journal. -/
def log (event : Journal.Event) : Attempt Unit :=
  ExceptT.lift (Work.perform (.log event))

/-- An operation on the store. -/
def store (op : Store.Operation) : Attempt op.Answer :=
  ExceptT.lift (Work.perform (.store op))

/-- A result of the store as one of the service. -/
def ofStore {α : Type} (result : Except Store.Failure α) : Attempt α :=
  ExceptT.mk (pure (result.mapError Failure.ofStore))

/-- A request to the detector. -/
def ask (call : Detector.Call) : Attempt (Option Bytes) := do
  log (.callingDetector call.params.length)
  ExceptT.lift (Work.perform (.ask call))

/-- A query to the detector. -/
def query {α : Type} (q : Detector.Query α) : Attempt α := do
  let answer ← ask q.call
  ExceptT.mk (pure ((q.read answer).mapError Failure.ofDetector))

end RuleWatch.Service
