import ClusterCost.Http.Route
import ClusterCost.Metrics.Exposition
import ClusterCost.Service.Basic

/-!
# The service's answers to requests

Every request but one only reads. A posted update of the rate card is the one that may change the
service, and only if it is accepted.
-/

namespace ClusterCost.Service

open Http

def bodyLimit : Nat := 2097152

/-- The text exposition of the metrics, if they are exposed. -/
def exposition (s : Service) : String := if s.exposed then s.metrics.exposition else ""

/-- A price as JSON, or the error of a rate. -/
def priceResponse {α : Type} (toJson : α → Json.Value) : Except PricingError α → Response
  | .ok a => .json 200 (toJson a)
  | .error e => .error 500 e.message

def withId (id : String) (respond : String → Response) : Response :=
  match decodeId? id with
  | some id => respond id
  | none => .text 400 "Invalid URL: Invalid UTF-8 in `id`"

def read (s : Service) : Route → Response
  | .liveness =>
    let report := s.health.liveness
    .json (if report.status.isOperational then 200 else 503) report.toJson
  | .readiness =>
    let readiness := s.health.readiness
    .json (if readiness.ready then 200 else 503) readiness.toJson
  | .metrics => ⟨200, some "text/plain; version=0.0.4", Utf8.encode s.exposition⟩
  | .clusters => .json 200 s.snapshot.toJson
  | .cluster id => withId id fun id =>
    match s.snapshot.info? id with
    | some info => .json 200 info.toJson
    | none => .error 404 ("unknown cluster '" ++ id ++ "'")
  | .nameId id => withId id fun id => .json 200 (.object [("nameId", .text (s.snapshot.nameId id))])
  | .rateCard => .json 200 s.provider.card.toJson
  | .nodePrices => .json 200 (.object (s.provider.table.rows.map NodePrice.toJson).entries)
  | .networkRates => priceResponse NetworkRates.toJson (NetworkRates.ofCard s.provider.card)
  | .balancerCost => priceResponse BalancerCost.toJson (BalancerCost.ofCard s.provider.card)

/-- The status of a refused update: a file that cannot be written is the service's fault. -/
def refusalStatus : PricingError → Nat
  | .config _ => 500
  | _ => 400

def post (s : Service) (updateType : String) (body : Bytes) : Response × Service :=
  match s.updateCard { chunks := [body] } updateType with
  | (.ok card, s) =>
    (.json 200 card.toJson, s.record (.pricingUpdate s.clusterId updateType true ""))
  | (.error e, s) =>
    (.error (refusalStatus e) e.message,
     s.record (.pricingUpdate s.clusterId updateType false e.message))

def receive (s : Service) (r : Request) : Response × Service :=
  match Http.updateType r.query with
  | .error .duplicateType =>
    (.text 400 "Failed to deserialize query string: duplicate field `type`", s)
  | .ok updateType =>
    if bodyLimit < r.body.length then
      (.text 413 "Failed to buffer the request body: length limit exceeded", s)
    else s.post updateType r.body

/-- The response to a request, and the service after it. -/
def respond (s : Service) (r : Request) : Response × Service :=
  match Route.ofPath? r.path with
  | none => (.bare 404, s)
  | some route =>
    if !route.allows r.method then (.bare 405, s)
    else if r.method == "POST" then s.receive r
    else if r.method == "HEAD" then ((s.read route).withoutBody, s)
    else (s.read route, s)

end ClusterCost.Service
