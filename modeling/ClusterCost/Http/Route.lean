import ClusterCost.Http.Message

/-!
# Routes

The paths that are served. Paths are matched as they are written; the id in a path is
decoded once, after the match.
-/

namespace ClusterCost.Http

/-- What is served. An id is still as it was written. -/
inductive Route where
  | liveness
  | readiness
  | metrics
  | clusters
  | cluster (id : String)
  | nameId (id : String)
  | rateCard
  | nodePrices
  | networkRates
  | balancerCost
  deriving DecidableEq, Repr

namespace Route

def ofSegments? : List String → Option Route
  | ["healthz"] => some liveness
  | ["readyz"] => some readiness
  | ["metrics"] => some metrics
  | ["clusters"] => some clusters
  | ["clusters", id] => if id == "" then none else some (cluster id)
  | ["clusters", id, "nameid"] => some (nameId id)
  | ["pricing", "config"] => some rateCard
  | ["pricing", "nodes"] => some nodePrices
  | ["pricing", "network"] => some networkRates
  | ["pricing", "loadbalancer"] => some balancerCost
  | _ => none

def ofPath? (path : String) : Option Route :=
  match (path.toList.splitOn '/').map String.ofList with
  | "" :: segments => ofSegments? segments
  | _ => none

/-- The methods of a route: all are read, and the rate card can be changed. -/
def allows (r : Route) (method : String) : Bool :=
  method == "GET" || method == "HEAD" || (method == "POST" && r == rateCard)

end Route

/-- The id of a cluster as it was written in a path, decoded. -/
def decodeId? (id : String) : Option String := Utf8.decode? (Percent.decode (Utf8.encode id))

/-- Why the type of an update cannot be read from a query. -/
inductive QueryFault where
  | duplicateType
  deriving DecidableEq, Repr

/-- The type of an update, which a query gives at most once; empty if it does not. -/
def updateType (query : String) : Except QueryFault String :=
  match (Form.pairs query).filter (·.1 == "type") with
  | [] => .ok ""
  | [(_, type)] => .ok type
  | _ => .error .duplicateType

end ClusterCost.Http
