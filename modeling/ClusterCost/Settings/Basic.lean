import ClusterCost.Cluster.Refresher
import ClusterCost.Files
import ClusterCost.Query.Endpoint
import ClusterCost.Settings.Layer

/-!
# The settings of the service

Each setting comes from the environment, or else from a file, or else it has its default. A setting
that is overridden is not looked at.
-/

namespace ClusterCost

/-! ### Files with settings

A file is found by its name, whose ending tells the format, or by its name without the ending. -/

namespace SettingsFile

/-- The ending of a path's last name: what follows its last point, unless the name
starts with that. -/
def endingOf (path : String) : String :=
  let name := path.toList.reverse.takeWhile (· != '/')
  match name.dropWhile (· != '.') with
  | _ :: _ :: _ => String.ofList (name.takeWhile (· != '.')).reverse
  | _ => ""

/-- The path and the format of the file that a name stands for. A file of exactly this name must
have the ending of a format. -/
def locate? (files : Files) (name : String) : Option (String × SettingsFormat) :=
  if files.isFile name then
    (SettingsFormat.all.find? fun f => f.ending == endingOf name).map (name, ·)
  else
    let completed (f : SettingsFormat) : String := Files.withoutEndSlashes name ++ "." ++ f.ending
    (SettingsFormat.all.find? fun f => files.isFile (completed f)).map fun f => (completed f, f)

/-- The text of a file's content. A byte order mark in front is dropped, and broken
characters are replaced. -/
def textOf : Bytes → String
  | 0xEF :: 0xBB :: 0xBF :: rest => Utf8.decodeLossy rest
  | bytes => Utf8.decodeLossy bytes

/-- The layer of the file that a name stands for, if there is such a file with a text
of its format. -/
def layer? (files : Files) (name : String) : Option (Dictionary Setting) := do
  let (path, format) ← locate? files name
  format.layer? (textOf (← (files.read path).toOption))

end SettingsFile

/-! ### Settings -/

/-- The settings of the service. Times are in seconds. -/
structure Settings where
  clusterId : String
  endpoint : String
  /-- The backend keeps samples in long-term storage. -/
  longTerm : Bool
  queryOffset : String
  queryTimeout : Nat
  refreshInterval : Nat
  attempts : Nat
  retryDelay : Nat
  /-- The file of the rate card; without one the card is not kept. -/
  cardPath : Option String
  apiPort : Nat
  deriving DecidableEq, Repr

/-- Why there are no settings. -/
inductive SettingsError where
  /-- The file is not there, or is no text of its format. -/
  | unreadable
  /-- A setting has the wrong type. -/
  | invalid
  | zeroInterval
  deriving DecidableEq, Repr

def SettingsError.message : SettingsError → String
  | unreadable => "failed to read cost model configuration"
  | invalid => "invalid cost model configuration"
  | zeroInterval => "cluster_refresh_interval_secs must be greater than zero"

namespace Settings

/-! ### Defaults -/

/-- The id of the own cluster where no source gives it: a variable's text as it is, or
a fixed one. -/
def defaultClusterId (environment : Dictionary String) : String :=
  (environment.get? "CLUSTER_ID").getD "cluster-one"

def default (environment : Dictionary String) : Settings where
  clusterId := defaultClusterId environment
  endpoint := "http://prometheus-server:9090"
  longTerm := false
  queryOffset := Backend.defaultOffset
  queryTimeout := 120
  refreshInterval := RefreshSettings.defaultInterval / 1000
  attempts := RefreshSettings.defaultAttempts
  retryDelay := RefreshSettings.defaultDelay / 1000
  cardPath := none
  apiPort := 9003

/-! ### Reading -/

/-- A setting of a name by the stronger of two layers. -/
def winner? (strong weak : Dictionary Setting) (name : String) : Option Setting :=
  (strong.get? name).or (weak.get? name)

def convert {α : Type} (conversion : Setting → Option α) (default : α) :
    Option Setting → Except SettingsError α
  | none => .ok default
  | some s => (conversion s).elim (.error .invalid) .ok

def ofLookup (lookup : String → Option Setting) (default : Settings) :
    Except SettingsError Settings := do
  pure {
    clusterId := ← convert Setting.toText? default.clusterId (lookup "cluster_id")
    endpoint := ← convert Setting.toText? default.endpoint (lookup "prometheus_endpoint")
    longTerm := ← convert Setting.toBool? default.longTerm (lookup "thanos_enabled")
    queryOffset := ← convert Setting.toText? default.queryOffset (lookup "thanos_query_offset")
    queryTimeout := ← convert (Setting.toNatOf? 64) default.queryTimeout
      (lookup "query_timeout_secs")
    refreshInterval := ← convert (Setting.toNatOf? 64) default.refreshInterval
      (lookup "cluster_refresh_interval_secs")
    attempts := ← convert (Setting.toNatOf? 32) default.attempts (lookup "cluster_load_retries")
    retryDelay := ← convert (Setting.toNatOf? 64) default.retryDelay
      (lookup "cluster_load_retry_delay_secs")
    cardPath := ← convert Setting.toOptionalText? default.cardPath (lookup "pricing_config_path")
    apiPort := ← convert (Setting.toNatOf? 16) default.apiPort (lookup "api_port") }

/-- The settings of an environment and a file's layer. An interval of zero is refused. -/
def ofLayers (environment : Dictionary String) (file : Dictionary Setting) :
    Except SettingsError Settings := do
  let settings ← ofLookup (winner? (Environment.layer environment) file) (default environment)
  if settings.refreshInterval = 0 then throw .zeroInterval else pure settings

/-- The settings of an environment and of the file that a name stands for, if one is given. -/
def loadFrom (environment : Dictionary String) (files : Files) (name : Option String) :
    Except SettingsError Settings :=
  match name with
  | none => ofLayers environment .empty
  | some name =>
    match SettingsFile.layer? files name with
    | none => .error .unreadable
    | some file => ofLayers environment file

/-- The variable that names a file with settings. -/
def fileVariable : String := "COST_MODEL_CONFIG_FILE"

/-- The settings of an environment, which may name a file. -/
def load (environment : Dictionary String) (files : Files) : Except SettingsError Settings :=
  loadFrom environment files (environment.get? fileVariable)

end Settings

end ClusterCost
