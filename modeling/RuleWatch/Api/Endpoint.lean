import RuleWatch.Http.Message

/-!
# Endpoints

All that the service can be asked for, each under a path and a method of its own.
-/

namespace RuleWatch.Api

/-- Something that the service can be asked for. -/
inductive Endpoint
  | health
  | listRules
  | ruleDetail
  | createRule
  | updateRule
  | deleteRule
  | listAnalyses
  | deleteAnalysis
  | rawData
  | targets
  | nodeInfo
  | nodeStatus
  | nodeResources
  | nodeContainerStatus
  | clusterResources
  | clusterContainerStatus
  | query
  | queryRange
  | queryValidate
  | description
  deriving DecidableEq, Repr

namespace Endpoint

/-- All endpoints. -/
def all : List Endpoint :=
  [health, listRules, ruleDetail, createRule, updateRule, deleteRule, listAnalyses, deleteAnalysis,
    rawData, targets, nodeInfo, nodeStatus, nodeResources, nodeContainerStatus, clusterResources,
    clusterContainerStatus, query, queryRange, queryValidate, description]

/-- The path of an endpoint. -/
def path : Endpoint → String
  | health => "/api/v1/health"
  | listRules => "/api/v1/rules"
  | ruleDetail => "/api/v1/rules/detail"
  | createRule => "/api/v1/rules/create"
  | updateRule => "/api/v1/rules/update"
  | deleteRule => "/api/v1/rules/delete"
  | listAnalyses => "/api/v1/analysis/result"
  | deleteAnalysis => "/api/v1/analysis/result/delete"
  | rawData => "/api/v1/analysis/result/raw_data"
  | targets => "/api/v1/monitor/targets"
  | nodeInfo => "/api/v1/monitor/node_info"
  | nodeStatus => "/api/v1/monitor/node_status"
  | nodeResources => "/api/v1/monitor/node_resources"
  | nodeContainerStatus => "/api/v1/monitor/node_container_status"
  | clusterResources => "/api/v1/monitor/cluster_resources"
  | clusterContainerStatus => "/api/v1/monitor/cluster_container_status"
  | query => "/api/v1/prometheus/query"
  | queryRange => "/api/v1/prometheus/query_range"
  | queryValidate => "/api/v1/prometheus/query_validate"
  | description => "/api/v1/openapi.json"

/-- The endpoint changes something, and is asked with a body. -/
def isMutation : Endpoint → Bool
  | createRule | updateRule | deleteRule | deleteAnalysis => true
  | _ => false

/-- The method of an endpoint. -/
def method (e : Endpoint) : Http.Method :=
  if e.isMutation then .post else .get

/-- The endpoint under a path. -/
def ofPath? (path : String) : Option Endpoint :=
  all.find? fun e ↦ e.path == path

/-- The endpoint can be asked with a method; what can be had can also be asked for without its
body. -/
def allows (e : Endpoint) (m : Http.Method) : Bool :=
  m == e.method || (m == .head && e.method == .get)

end Endpoint

end RuleWatch.Api
