/-!
# Log events

What the service reports of itself: a level, a message and named fields.
-/

namespace ClusterCost

inductive Level where
  | info
  | warn
  | error
  deriving DecidableEq, Repr

def Level.label : Level → String
  | info => "INFO"
  | warn => "WARN"
  | error => "ERROR"

/-- The value of a field of an event. -/
inductive Detail where
  | text (s : String)
  | count (n : Nat)
  deriving DecidableEq, Repr

structure Event where
  level : Level
  message : String
  fields : List (String × Detail)
  deriving DecidableEq, Repr

namespace Event

/-! ### Pricing -/

def loadedCard (path : String) : Event :=
  ⟨.info, "Loaded pricing configuration", [("path", .text path)]⟩

/-- The default card was written to a pricing file. -/
def wroteDefaultCard (path : String) : Event :=
  ⟨.info, "Wrote default pricing configuration", [("path", .text path)]⟩

def appliedUpdate (updateType : String) : Event :=
  ⟨.info, "Applied custom pricing update", [("update_type", .text updateType)]⟩

/-- An update from a map of names to texts was applied. -/
def appliedMap (fields : Nat) : Event :=
  ⟨.info, "Applied custom pricing from config map", [("fields", .count fields)]⟩

/-! ### Refreshes of the cluster map -/

/-- A row of a query's answer names no cluster. -/
def skippedRow (error : String) : Event :=
  ⟨.warn, "Skipping cluster info row", [("error", .text error)]⟩

/-- The service's own cluster is not in the answer and its identity is incomplete. -/
def noLocalCluster (clusterId error : String) : Event :=
  ⟨.error, "Failed to load local cluster info",
   [("cluster_id", .text clusterId), ("error", .text error)]⟩

def refreshed (clusters elapsedMs : Nat) : Event :=
  ⟨.info, "Refreshed cluster map",
    [("event", .text "cluster_refresh"), ("cluster_count", .count clusters),
      ("elapsed_ms", .count elapsedMs)]⟩

def refreshFailed (attempts : Nat) (error : String) : Event :=
  ⟨.error, "Failed to load cluster info, keeping previous snapshot",
    [("attempts", .count attempts), ("error", .text error)]⟩

def loopStarted (intervalSecs : Nat) : Event :=
  ⟨.info, "Starting cluster map refresh loop", [("interval_secs", .count intervalSecs)]⟩

def loopStopped : Event := ⟨.info, "Stopping cluster map refresh loop", []⟩

/-- An interval of zero was replaced by the default one. -/
def zeroInterval (defaultSecs : Nat) : Event :=
  ⟨.warn, "Zero cluster refresh interval, using default", [("default_secs", .count defaultSecs)]⟩

/-! ### The service -/

def started (clusterId version backend : String) : Event :=
  ⟨.info, "Cost model started",
    [("event", .text "cost_model_started"), ("cluster_id", .text clusterId),
     ("version", .text version),
      ("backend", .text backend)]⟩

def shuttingDown (clusterId reason : String) : Event :=
  ⟨.info, "Cost model shutting down",
    [("event", .text "cost_model_shutdown"), ("cluster_id", .text clusterId),
      ("reason", .text reason)]⟩

/-- A request's update of the rate card was accepted, or refused for the reason in `detail`. -/
def pricingUpdate (clusterId updateType : String) (accepted : Bool) (detail : String) : Event :=
  if accepted then
    ⟨.info, "Pricing configuration updated",
      [("event", .text "pricing_config_updated"), ("cluster_id", .text clusterId),
        ("update_type", .text updateType)]⟩
  else
    ⟨.warn, "Pricing configuration update rejected",
      [("event", .text "pricing_config_rejected"), ("cluster_id", .text clusterId),
        ("update_type", .text updateType), ("error", .text detail)]⟩

def serverFailed (error : String) : Event := ⟨.error, "API server failed", [("error", .text error)]⟩

end Event

end ClusterCost
