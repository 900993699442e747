import ClusterCost.Dictionary
import ClusterCost.Json.Record
import ClusterCost.Json.Value

/-!
# Health

Components report how they are; the service is as well as its worst component. It is ready once it
has been declared so and no component is unhealthy. A component that serves old data is degraded,
which fails neither probe.
-/

namespace ClusterCost

/-- How a component is, from best to worst. -/
inductive Status where
  | healthy
  | degraded
  | unhealthy
  deriving DecidableEq, Repr

namespace Status

def label : Status → String
  | healthy => "healthy"
  | degraded => "degraded"
  | unhealthy => "unhealthy"

/-- The rank of a status; a worse status has a higher rank. -/
def rank : Status → Nat
  | healthy => 0
  | degraded => 1
  | unhealthy => 2

def worse (a b : Status) : Status := if a.rank < b.rank then b else a

/-- Whether a component with this status can still answer. -/
def isOperational (s : Status) : Bool := s != unhealthy

def worst (statuses : List Status) : Status := statuses.foldl worse healthy

def reader : Json.Reader Status :=
  .variant [("healthy", healthy), ("degraded", degraded), ("unhealthy", unhealthy)]

def toJson (s : Status) : Json.Value := .text s.label

end Status

/-- The last report of a component. -/
structure ComponentHealth where
  status : Status
  message : Option String
  /-- When the report was made, in seconds of a clock. -/
  lastCheck : Int
  deriving DecidableEq, Repr

namespace ComponentHealth

def reader : Json.Reader ComponentHealth := Json.Record.read {
  name := "struct ComponentHealth"
  blank := ⟨.healthy, none, 0⟩
  slots := [
    .of "status" .required Status.reader fun s h => { h with status := s },
    .of "message" .nullable (.optional .text) fun m h => { h with message := m },
    .of "last_check_timestamp" .required .integer fun t h => { h with lastCheck := t }] }

def toJson (h : ComponentHealth) : Json.Value :=
  .object (("status", h.status.toJson) :: (h.message.toList.map fun m => ("message", .text m)) ++
    [("last_check_timestamp", .integer h.lastCheck)])

end ComponentHealth

structure HealthReport where
  status : Status
  components : Dictionary ComponentHealth

namespace HealthReport

/-- The status of a service with these components. -/
def overall (components : Dictionary ComponentHealth) : Status :=
  .worst (components.values.map (·.status))

def reader : Json.Reader HealthReport := Json.Record.read {
  name := "struct HealthResponse"
  blank := ⟨.healthy, .empty⟩
  slots := [
    .of "status" .required Status.reader fun s h => { h with status := s },
    .of "components" .required (.members ComponentHealth.reader) fun c h =>
      { h with components := .ofList c }] }

def toJson (h : HealthReport) : Json.Value :=
  .object
    [("status", h.status.toJson),
     ("components", .object (h.components.map ComponentHealth.toJson).entries)]

end HealthReport

structure Readiness where
  ready : Bool
  reason : Option String
  deriving DecidableEq, Repr

namespace Readiness

def reader : Json.Reader Readiness := Json.Record.read {
  name := "struct ReadinessResponse"
  blank := ⟨false, none⟩
  slots := [
    .of "ready" .required .bool fun b r => { r with ready := b },
    .of "reason" .nullable (.optional .text) fun s r => { r with reason := s }] }

def toJson (r : Readiness) : Json.Value :=
  .object (("ready", .bool r.ready) :: r.reason.toList.map fun s => ("reason", .text s))

end Readiness

/-- The reports of all components, and whether the service has been declared ready. -/
structure Health where
  components : Dictionary ComponentHealth := .empty
  ready : Bool := false

namespace Health

def report (h : Health) (name : String) (r : ComponentHealth) : Health :=
  { h with components := h.components.insert name r }

def setHealthy (h : Health) (now : Int) (name : String) : Health :=
  h.report name ⟨.healthy, none, now⟩

/-- Begin to follow a component, which counts as healthy until it reports something else. -/
def register (h : Health) (now : Int) (name : String) : Health := h.setHealthy now name

def setDegraded (h : Health) (now : Int) (name message : String) : Health :=
  h.report name ⟨.degraded, some message, now⟩

def setUnhealthy (h : Health) (now : Int) (name message : String) : Health :=
  h.report name ⟨.unhealthy, some message, now⟩

def setReady (h : Health) (ready : Bool) : Health := { h with ready }

def liveness (h : Health) : HealthReport := ⟨HealthReport.overall h.components, h.components⟩

def unhealthyNames (h : Health) : List String :=
  Dictionary.sorted
    ((h.components.entries.filter fun entry => !entry.2.status.isOperational).map (·.1))

def readiness (h : Health) : Readiness :=
  if !h.ready then ⟨false, some "Cost model not yet initialized"⟩
  else
    match h.unhealthyNames with
    | [] => ⟨true, none⟩
    | names => ⟨false, some ("Unhealthy components: " ++ String.intercalate ", " names)⟩

end Health

/-! ### Names of components -/

namespace Component

/-- The refreshes of the cluster map. -/
def clusterMap : String := "cluster_map"

/-- The rate card and its table. -/
def pricing : String := "pricing"

/-- The connection to the query backend. -/
def queryBackend : String := "query_backend"

end Component

end ClusterCost
