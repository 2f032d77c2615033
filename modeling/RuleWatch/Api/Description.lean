import RuleWatch.Api.Endpoint

/-!
# The description of the interface

The document in which the service describes its endpoints: under each path and method the topic, the
parameters, whether there is a body, and the statuses of the answers.
-/

namespace RuleWatch.Api

/-- What the description says about an endpoint. -/
structure Operation where
  topic : String
  summary : String
  /-- The parameters, and whether each must be given. -/
  params : List (String × Bool)
  /-- The statuses, and when each is given. -/
  answers : List (Nat × String)
  deriving DecidableEq, Repr

namespace Operation

/-- The parameters of listings. -/
def listParams : List (String × Bool) :=
  [("filter", false), ("sort_field", false), ("sort_order", false), ("page_no", false),
    ("page_size", false)]

/-- The parameters of a time range. -/
def rangeParams : List (String × Bool) :=
  [("start_time", true), ("end_time", true), ("step", true)]

/-- The answer that is given when the detector cannot be asked. -/
def unavailable : Nat × String := (503, "Detector unavailable")

/-- What the description says about an endpoint; it does not speak of itself. -/
def of? : Endpoint → Option Operation
  | .health => some ⟨"Health", "Liveness and uptime.", [], [(200, "Service is up")]⟩
  | .listRules => some ⟨"Rules", "Lists rules.", listParams,
      [(200, "One page of rules"), (400, "Bad paging or sort parameters")]⟩
  | .ruleDetail => some ⟨"Rules", "Fetches one rule.", [("id", true)],
      [(200, "Rule"), (404, "No such rule")]⟩
  | .createRule => some ⟨"Rules", "Creates a rule and notifies the detector.", [],
      [(200, "Rule created"), (202, "Rule created, detector not notified"),
        (400, "Rule failed validation"), (409, "Name already taken")]⟩
  | .updateRule => some ⟨"Rules",
      "Updates the supplied fields of a rule and notifies the detector.", [],
      [(200, "Rule updated"), (202, "Rule updated, detector not notified"),
        (400, "Resulting rule failed validation"), (404, "No such rule"),
        (409, "Name already taken")]⟩
  | .deleteRule => some ⟨"Rules", "Deletes a rule and notifies the detector.", [],
      [(200, "Rule deleted"), (202, "Rule deleted, detector not notified"),
        (404, "No such rule")]⟩
  | .listAnalyses => some ⟨"Analysis", "Lists analysis results.", listParams,
      [(200, "One page of analysis results"), (400, "Bad paging or sort parameters")]⟩
  | .deleteAnalysis => some ⟨"Analysis", "Deletes an analysis result.", [],
      [(200, "Result deleted"), (404, "No such result")]⟩
  | .rawData => some ⟨"Analysis",
      "Re-queries the metric window of a result using its rule's expression.", [("id", true)],
      [(200, "Metric window"), (404, "No such result or rule"),
        (503, "Metrics backend unavailable")]⟩
  | .targets => some ⟨"Monitor", "Lists what is scraped.", [],
      [(200, "Scrape targets and their health"), unavailable]⟩
  | .nodeInfo => some ⟨"Monitor", "Describes the nodes.", [("instance", false)],
      [(200, "Node platform details"), unavailable]⟩
  | .nodeStatus => some ⟨"Monitor", "Tells what is in use on the nodes.", [("instance", false)],
      [(200, "Node container, cpu, memory and disk usage"), unavailable]⟩
  | .nodeResources => some ⟨"Monitor", "Tells what was in use on a node.",
      ("instance", true) :: rangeParams,
      [(200, "Resource series for one node"), (400, "Bad time range"), unavailable]⟩
  | .nodeContainerStatus => some ⟨"Monitor", "Tells how the containers of a node are.",
      [("instance", true)], [(200, "Container states on one node"), unavailable]⟩
  | .clusterResources => some ⟨"Monitor", "Tells what was in use in the cluster.", rangeParams,
      [(200, "Cluster-wide resource series"), (400, "Bad time range"), unavailable]⟩
  | .clusterContainerStatus => some ⟨"Monitor", "Tells how the containers of the cluster were.",
      rangeParams,
      [(200, "Cluster-wide container series"), (400, "Bad time range"), unavailable]⟩
  | .query => some ⟨"Prometheus", "Instant query.", [("query", true), ("time", false)],
      [(200, "Query result"), (400, "Expression does not parse"), unavailable]⟩
  | .queryRange => some ⟨"Prometheus", "Range query.", ("query", true) :: rangeParams,
      [(200, "Query result"), (400, "Expression or range invalid"), unavailable]⟩
  | .queryValidate => some ⟨"Prometheus",
      "Checks an expression against the grammar without running it.", [("query", true)],
      [(200, "Expression parses"), (400, "Expression does not parse")]⟩
  | .description => none

/-- A parameter as it is described. -/
def paramJson (param : String × Bool) : Json :=
  .object [("name", .string param.1), ("in", .string "query"), ("required", .bool param.2)]

/-- What is said about a body: that it is JSON, and must be there. -/
def bodyJson : Json :=
  .object [("required", .bool true),
    ("content", .object [(Http.Response.jsonType, .object [])])]

/-- An operation as it is described. -/
def toJson (op : Operation) (hasBody : Bool) : Json :=
  .object <|
    [("tags", .array [.string op.topic]), ("summary", .string op.summary),
      ("parameters", .array (op.params.map paramJson))]
    ++ (if hasBody then [("requestBody", bodyJson)] else [])
    ++ [("responses", .object (op.answers.map fun (status, text) ↦
        (toString status, .object [("description", .string text)])))]

end Operation

namespace Description

/-- The topics that the endpoints belong to. -/
def topics : List (String × String) :=
  [("Health", "Service health"), ("Rules", "Detection rule lifecycle"),
    ("Analysis", "Detected episodes and their metric windows"),
    ("Monitor", "Infrastructure views reported by the detector"),
    ("Prometheus", "Ad-hoc metric queries")]

/-- The name of a method where it is described. -/
def methodKey (m : Http.Method) : String :=
  String.ofList (m.name.toList.map Char.toLower)

/-- The path of an endpoint with what is said about it. -/
def pathItem? (e : Endpoint) : Option (String × Json) :=
  (Operation.of? e).map fun op ↦
    (e.path, .object [(methodKey e.method, op.toJson e.isMutation)])

/-- The whole description. -/
def document (title version : String) : Json :=
  .object [("openapi", .string "3.1.0"),
    ("info", .object [("title", .string title),
      ("description",
        .string "Detection rule management, analysis results and metric proxy"),
      ("version", .string version)]),
    ("paths", .object (Endpoint.all.filterMap pathItem?)),
    ("tags", .array (topics.map fun (name, text) ↦
      .object [("name", .string name), ("description", .string text)]))]

end Description

end RuleWatch.Api
