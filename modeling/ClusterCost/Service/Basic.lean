import ClusterCost.Cluster.Refresher
import ClusterCost.Health
import ClusterCost.Metrics.Basic
import ClusterCost.Query.Series
import ClusterCost.Rates.Provider

/-!
# The state of a service

A service has a pricing provider, metrics, the health of its components and a map of
clusters, a clock, files and a log. The map is a refresher with what its refreshes need: the
offset of its queries and the local identity. Maps that have been replaced are kept as long
as their refreshes go on.
-/

namespace ClusterCost

/-! ### What the backend will answer

A supply says what comes of each query from now on: the same rows, after an outage if there is one.
It also keeps the queries that were asked. -/

/-- For how long queries fail. -/
inductive Outage where
  | none
  | brief (queries : Nat) (error : QueryError)
  | lasting (error : QueryError)

def Outage.next : Outage → Outage
  | .brief (n + 1) e => .brief n e
  | outage => outage

/-- The answers to come, and the queries so far, the newest first. -/
structure Supply where
  rows : List Series := []
  outage : Outage := .none
  asked : List String := []

namespace Supply

def outcome (s : Supply) : Except QueryError (List Series) :=
  match s.outage with
  | .none | .brief 0 _ => .ok s.rows
  | .brief (_ + 1) e | .lasting e => .error e

def ask (s : Supply) (query : String) : Except QueryError (List Series) × Supply :=
  (s.outcome, { s with outage := s.outage.next, asked := query :: s.asked })

end Supply

/-! ### Services -/

/-- Where a map gets the identity of the own cluster. -/
inductive IdentitySource where
  | provider
  | fixed (values : Dictionary String)

/-- A map of clusters. -/
structure ClusterMap where
  refresher : Refresher
  /-- What is added to its queries. -/
  modifier : String
  identity : IdentitySource
  /-- Refreshes are recorded in the service's metrics. -/
  inMetrics : Bool
  /-- Refreshes are reported to the service's health. -/
  inHealth : Bool
  /-- How many overdue refreshes the loop still starts when it has been told to stop,
  before it notices. -/
  overtime : Nat := 1

namespace ClusterMap

def snapshot (m : ClusterMap) : Snapshot := m.refresher.snapshot

def query (m : ClusterMap) : String := Snapshot.query m.modifier

end ClusterMap

/-- A service. Times are in milliseconds; the log has the newest event first. -/
structure Service where
  /-- The id of the own cluster, as the log gives it. -/
  clusterId : String
  now : Nat := 0
  files : Files
  provider : Provider
  /-- Updates and rebuilds of the rate table are recorded in the metrics. -/
  providerInMetrics : Bool := true
  metrics : Metrics := {}
  exposed : Bool := true
  health : Health := {}
  supply : Supply := {}
  map : Option ClusterMap := none
  retired : List ClusterMap := []
  log : List Event := []

namespace Service

def record (s : Service) (event : Event) : Service := { s with log := event :: s.log }

/-- The clock in seconds, as reports of health give it. -/
def seconds (s : Service) : Int := (s.now / 1000 : Nat)

/-- Change the metrics if they are wanted. -/
def measure (s : Service) (wanted : Bool) (f : Metrics → Metrics) : Service :=
  if wanted then { s with metrics := f s.metrics } else s

/-- Start new metrics and expose them, unless some are exposed already. The provider and the maps
that are there go on with the old ones, which nobody sees any more. -/
def exposeMetrics (s : Service) : Option Service :=
  if s.exposed then none
  else
    let detach (m : ClusterMap) : ClusterMap := { m with inMetrics := false }
    some { s with
      metrics := {}, exposed := true, providerInMetrics := false, map := s.map.map detach,
      retired := s.retired.map detach }

/-- Expose the metrics no longer, if they are exposed. -/
def withdrawMetrics (s : Service) : Option Service :=
  if s.exposed then some { s with exposed := false } else none

/-- The snapshot that is served: that of the current map. -/
def snapshot (s : Service) : Snapshot := s.map.elim .empty (·.snapshot)

end Service

/-! ### Reports -/

def secondsOf (milliseconds : Nat) : Float :=
  (milliseconds / 1000).toFloat + (milliseconds % 1000 * 1000000).toFloat / 1e9

/-- A time in milliseconds as the log gives it, which has gone through seconds. -/
def loggedElapsed (milliseconds : Nat) : Nat := (secondsOf milliseconds * 1000.0).toUInt64.toNat

namespace Metrics

def note (m : Metrics) : Report → Metrics
  | .skippedRow _ => m.skippedRow
  | .refreshed elapsed clusters => m.refreshed (secondsOf elapsed) clusters
  | .failed elapsed _ _ => m.refreshFailed (secondsOf elapsed)
  | .withoutOwn .. | .loopStarted _ | .loopStopped => m

end Metrics

namespace Health

/-- What a report does to the health of the components. -/
def note (h : Health) (now : Int) : Report → Health
  | .refreshed .. => h.setHealthy now Component.clusterMap
  | .failed _ _ e =>
    h.setDegraded now Component.clusterMap ("Cluster info query failed: " ++ e.message)
  | .skippedRow _ | .withoutOwn .. | .loopStarted _ | .loopStopped => h

end Health

def Report.event : Report → Event
  | .skippedRow e => .skippedRow e.message
  | .withoutOwn clusterId e => .noLocalCluster clusterId e.message
  | .refreshed elapsed clusters => .refreshed clusters (loggedElapsed elapsed)
  | .failed _ attempts e => .refreshFailed attempts e.message
  | .loopStarted interval => .loopStarted (interval / 1000)
  | .loopStopped => .loopStopped

namespace Service

def note (s : Service) (m : ClusterMap) (report : Report) : Service :=
  let s := (s.record report.event).measure m.inMetrics (·.note report)
  if m.inHealth then { s with health := s.health.note s.seconds report } else s

/-! ### Pricing

The provider's operations with what they leave in the metrics and the log. -/

def rebuild (s : Service) : Service :=
  { s with provider := s.provider.rebuild }.measure s.providerInMetrics Metrics.rebuilt

/-- Change the card by an edit, and say so by an event. The outcome is counted; the table is rebuilt
after an accepted edit. -/
def changeCard (s : Service) (edit : RateCard → Except PricingError RateCard) (event : Event) :
    Except PricingError RateCard × Service :=
  match s.provider.update s.files edit with
  | (.error e, provider, files) =>
    (.error e, { s with provider, files }.measure s.providerInMetrics (·.updated false))
  | (.ok card, provider, files) =>
    let s := { s with provider, files }.record event
    (.ok card, s.measure s.providerInMetrics fun m => (m.updated true).rebuilt)

def updateCard (s : Service) (body : CardUpdate.Body) (updateType : String) :
    Except PricingError RateCard × Service :=
  s.changeCard (Provider.editOfBody body) (.appliedUpdate updateType)

/-- Change the card by a map of names to texts. -/
def updateCardByMap (s : Service) (values : Dictionary String) :
    Except PricingError RateCard × Service :=
  s.changeCard (·.setAll values.entries) (.appliedMap values.size)

/-- Change the card in the store alone: neither the table nor the metrics take notice. -/
def updateStore (s : Service) (edit : RateCard → Except PricingError RateCard) :
    Except PricingError RateCard × Service :=
  let (result, store, files) := s.provider.store.update s.files edit
  (result, { s with files, provider := { s.provider with store } })

end Service

end ClusterCost
