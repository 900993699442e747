import ClusterCost.Http.Api
import ClusterCost.Query.Endpoint
import ClusterCost.Service.Clusters
import ClusterCost.Settings.Basic

/-!
# A run of the service

A run starts the service from its settings, lets it answer requests one after another, and ends it.
It does not start if the settings, the file of the rate card or the URL of the backend cannot be
used; while it runs, a backend that fails does not end it.
-/

namespace ClusterCost

/-- Why the service does not start. -/
inductive StartError where
  | settings (error : SettingsError)
  | rateCard (error : ConfigError)
  | backend (error : QueryError)

def StartError.message : StartError → String
  | settings error => error.message
  | rateCard _ => "failed to load pricing config"
  | backend _ => "failed to create time-series client"

/-- Why requests cannot be answered. -/
inductive ServerError where
  | portTaken
  deriving DecidableEq, Repr

def ServerError.message : ServerError → String
  | portTaken => "Address already in use (os error 98)"

namespace Settings

def backend (s : Settings) : Backend := if s.longTerm then .withOffset s.queryOffset else .direct

/-- The name of the kind of backend in the log. -/
def backendName (s : Settings) : String := if s.longTerm then "thanos" else "prometheus"

def mapPlan (s : Settings) : Service.MapPlan where
  ownId := s.clusterId
  interval := some (s.refreshInterval * 1000)
  attempts := s.attempts
  delay := s.retryDelay * 1000
  modifier := s.backend.modifier

end Settings

/-- A supply in which every query comes to this. -/
def Supply.always : Except QueryError (List Series) → Supply
  | .ok rows => { rows }
  | .error e => { outage := .lasting e }

/-- The service while it runs, and where its queries go. -/
structure Run where
  service : Service
  endpoint : Endpoint

namespace Run

def version : String := "0.1.0"

def stopReason : String := "SIGINT received"

/-- The store of the rate card, with the files and the log after it was opened. -/
def openStore (settings : Settings) (files : Files) :
    Except ConfigError (Store × Files × List Event) :=
  match settings.cardPath with
  | none => .ok (.inMemory .default, files, [])
  | some path =>
    let (loaded, files) := Store.load path files
    loaded.map fun loaded => (loaded.store, files, [loaded.event])

/-- The service before its map of clusters is made: its rate table is built, and pricing and the
backend are reported healthy. -/
def prepared (settings : Settings) (store : Store) (files : Files) (log : List Event) (now : Nat) :
    Service :=
  let service : Service :=
    { clusterId := settings.clusterId, now, files,
      provider := ⟨settings.clusterId, store, .empty⟩, log }
  let health :=
    (service.health.setHealthy service.seconds Component.pricing).setHealthy service.seconds
    Component.queryBackend
  { service with health }.rebuild

/-- The service at a time when it begins to make its map of clusters. -/
def launch (settings : Settings) (files : Files) (now : Nat) : Except StartError Run := do
  let (store, files, log) ← (openStore settings files).mapError .rateCard
  let endpoint ← (Endpoint.ofText settings.endpoint settings.backend).mapError .backend
  let service :=
    (prepared settings store files log now).record
      (.started settings.clusterId version settings.backendName)
  pure ⟨service.placeMap settings.mapPlan, endpoint⟩

def ready (r : Run) : Run :=
  { r with service := { r.service with health := r.service.health.setReady true } }

/-- Start the service. Each query gets this answer, or none. -/
def start (settings : Settings) (files : Files) (answer : Option Answer) :
    Except StartError Run := do
  let r ← launch settings files 0
  let supply := Supply.always (r.endpoint.ask (Snapshot.query settings.backend.modifier) answer)
  let service := { r.service with supply }.awaitMap
  pure { r with service }.ready

def serve (r : Run) : List Http.Request → List Http.Response × Run
  | [] => ([], r)
  | request :: rest =>
    let (response, service) := r.service.respond request
    let (responses, r) := serve { r with service } rest
    (response :: responses, r)

/-- The service when it is about to shut down. The log also gets the error, if there is one, for
which no requests could be answered. -/
def close (r : Run) (failure : Option ServerError) : Run :=
  let service := r.service.record (.shuttingDown r.service.clusterId stopReason)
  let service := { service with health := service.health.setReady false }
  match failure with
  | none => { r with service }
  | some e => { r with service := service.record (.serverFailed e.message) }

def finish (r : Run) (failure : Option ServerError) : Run :=
  let service := (r.close failure).service.shutDown
  { r with service := service.withdrawMetrics.getD service }

/-- The targets of the queries so far. -/
def queryTargets (r : Run) : List String :=
  r.service.supply.asked.reverse.filterMap fun query =>
    (r.endpoint.queryUrl query).toOption.map Url.target

end Run

/-- What a run leaves behind. -/
structure Outcome where
  responses : List Http.Response := []
  /-- The targets of the queries that the backend got. -/
  queries : List String := []
  log : List Event := []
  exitCode : Nat := 0
  /-- What the process says when it fails. -/
  complaint : Option String := none

namespace Outcome

/-- The outcome of a run that did not start. -/
def ofError (e : StartError) : Outcome :=
  { exitCode := 1, complaint := some ("Error: " ++ e.message) }

def ofRun (responses : List Http.Response) (r : Run) : Outcome :=
  { responses, queries := r.queryTargets, log := r.service.log.reverse }

/-- The outcome of a run in an environment. It answers these requests, or cannot answer any. -/
def run (environment : Dictionary String) (files : Files) (answer : Option Answer)
    (requests : Except ServerError (List Http.Request)) : Outcome :=
  match (Settings.load environment files).mapError .settings >>= fun settings =>
    Run.start settings files answer with
  | .error e => ofError e
  | .ok r =>
    match requests with
    | .error e => ofRun [] (r.finish (some e))
    | .ok requests =>
      let (responses, r) := r.serve requests
      ofRun responses (r.finish none)

end Outcome

end ClusterCost
