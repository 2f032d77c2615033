import RuleWatch.Detector.Envelope
import RuleWatch.Metric
import RuleWatch.Monitor
import RuleWatch.TimeRange

/-!
# Queries to the detector

All that the detector is asked for: the path and the parameters of each query, and the kind of data
that it brings.
-/

namespace RuleWatch.Detector

/-- A request to the detector. Every one is a `GET`. -/
structure Call where
  path : String
  params : List (String × String)
  deriving DecidableEq, Repr

/-- The parameters of a time range. -/
def rangeParams (range : TimeRange) : List (String × String) :=
  [("start_time", toString range.start), ("end_time", toString range.finish),
    ("step", toString range.step)]

/-- The parameter of a machine, if there is one and it is not empty. -/
def machineParams (machine : Option String) : List (String × String) :=
  match machine with
  | some m => if m.isEmpty then [] else [("instance", m)]
  | none => []

/-- Something that the detector can be asked for: the request, the kind of data that it brings, and
what stands for data that are null. -/
structure Query (α : Type) where
  call : Call
  decode : Json → Except Json.Fault α
  empty : α

/-- What an answer to a request says, when its data do not matter. -/
def acknowledge (call : Call) (answer : Option Bytes) : Except Failure Json :=
  match answer with
  | none => .error .noAnswer
  | some body => do
    let envelope ← Envelope.parse call.path body
    envelope.data call.path

namespace Query

/-- What an answer to a query says. -/
def read {α : Type} (q : Query α) (answer : Option Bytes) : Except Failure α := do
  decodeData q.call.path q.decode q.empty (← acknowledge q.call answer)

/-- A query for a list of records. -/
def forList {α : Type} (path : String) (params : List (String × String)) (d : Json.Decoder α) :
    Query (List α) :=
  ⟨⟨path, params⟩, d.list.ofJson, []⟩

/-- A query for metrics, which are passed on as they are. -/
def forSeries (path : String) (params : List (String × String)) : Query Json :=
  ⟨⟨path, params⟩, .ok, .null⟩

def targets : Query Monitor.Targets :=
  ⟨⟨"/api/v1/monitor/targets", []⟩, Monitor.Targets.record.decoder.ofJson, ⟨[]⟩⟩

/-- The platforms of all machines, or of one. -/
def nodeInfo (machine : Option String) : Query (List Monitor.NodeInfo) :=
  forList "/api/v1/monitor/node_info" (machineParams machine) Monitor.NodeInfo.record.decoder

/-- What is in use on all machines, or on one. -/
def nodeStatus (machine : Option String) : Query (List Monitor.NodeStatus) :=
  forList "/api/v1/monitor/node_status" (machineParams machine) Monitor.NodeStatus.record.decoder

def nodeResources (machine : String) (range : TimeRange) : Query (List Metric.Sample) :=
  forList "/api/v1/monitor/node_resources" (("instance", machine) :: rangeParams range)
    Metric.Sample.record.decoder

def nodeContainerStatus (machine : String) : Query (List Metric.Sample) :=
  forList "/api/v1/monitor/node_container_status" [("instance", machine)]
    Metric.Sample.record.decoder

def clusterResources (range : TimeRange) : Query (List Metric.Sample) :=
  forList "/api/v1/monitor/cluster_resources" (rangeParams range) Metric.Sample.record.decoder

def clusterContainerStatus (range : TimeRange) : Query (List Metric.Sample) :=
  forList "/api/v1/monitor/cluster_container_status" (rangeParams range)
    Metric.Sample.record.decoder

/-- The value of an expression at a point in time. -/
def instant (expression : String) (time : Int) : Query Json :=
  forSeries "/api/v1/prometheus/query" [("query", expression), ("time", toString time)]

/-- The values of an expression over a range. -/
def window (expression : String) (range : TimeRange) : Query Json :=
  forSeries "/api/v1/prometheus/query_range" (("query", expression) :: rangeParams range)

end Query

/-- The request that tells the detector that the rules have changed. -/
def ruleSetChanged : Call := ⟨"/api/v1/rule_updated", []⟩

end RuleWatch.Detector
