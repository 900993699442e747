import ClusterCost.Query.Exchange
import ClusterCost.Service.Run
import Std.Async.DNS
import Std.Async.Signal
import Std.Http.Server

/-!
# The service as a program

The program takes its settings from the environment, keeps the map of clusters fresh, answers
requests on its port and ends at an interrupt. All decisions are made by `Run` and `Service`; here
is what connects these with the clock, the disk and the network.
-/

namespace ClusterCost

open Std.Async

/-! ### The environment -/

def variableNames : List String :=
  let settings :=
    ["cluster_id", "prometheus_endpoint", "thanos_enabled", "thanos_query_offset",
      "query_timeout_secs",
    "cluster_refresh_interval_secs", "cluster_load_retries", "cluster_load_retry_delay_secs",
    "pricing_config_path", "api_port"]
  ["CLUSTER_ID", Settings.fileVariable] ++
    settings.map fun name => (Environment.mark ++ name).toUpper

/-- The variables that matter and that are set. -/
def readEnvironment : IO (Dictionary String) := do
  let values ← variableNames.filterMapM fun name => return (← IO.getEnv name).map (name, ·)
  return .ofList values

/-! ### The disk -/

/-- What a path names on the disk. -/
def readEntry? (path : String) : IO (Option Entry) := do
  try
    return some (.file (← IO.FS.readBinFile path).toList)
  catch
    | .inappropriateType .. => return some .folder
    | .noFileOrDirectory .. => return none
    | e => throw e

/-- Take from the disk what an absolute path leads through. -/
def readPath (files : Files) (path : String) : IO Files := do
  let mut files := files
  let mut trail : Trail := []
  for name in path.splitOn "/" do
    if name == ".." then trail := trail.dropLast
    else if name != "" && name != "." then
      trail := trail ++ [name]
      match ← readEntry? ("/" ++ "/".intercalate trail) with
      | none => return files
      | some (.file content) => return files.put trail (.file content)
      | some .folder => files := files.put trail .folder
  return files

/-- Bring the disk from one state of the files to the next. -/
def writeChanges (before after : Files) : IO Unit := do
  for (trail, entry) in after.entries.reverse do
    let path := "/" ++ "/".intercalate trail
    match entry, before.entry? trail with
    | .folder, some .folder => pure ()
    | .folder, _ => IO.FS.createDirAll path
    | .file new, some (.file old) => if new != old then IO.FS.writeBinFile path ⟨new.toArray⟩
    | .file new, _ => IO.FS.writeBinFile path ⟨new.toArray⟩

/-! ### The log -/

/-- The value of a field of an event as JSON. -/
def Detail.toJson : Detail → Json.Value
  | text s => .text s
  | count n => .integer n

/-- The line of the log for an event at a time. -/
def Event.line (e : Event) (now : Nat) : Bytes :=
  let fields :=
    ("message", .text e.message) :: e.fields.map fun (name, detail) => (name, detail.toJson)
  (Json.Value.object [("timestamp_ms", .integer now), ("level", .text e.level.label),
    ("fields", .object fields)]).compact

def printEvent (e : Event) (now : Nat) : IO Unit := do
  let out ← IO.getStdout
  out.write ⟨(e.line now ++ [10]).toArray⟩
  out.flush

/-! ### The running service -/

def clock : IO Nat := return (← Std.Time.Timestamp.now).toMillisecondsSinceUnixEpoch.toInt.toNat

/-- The service while it runs, and the files as they are on the disk. -/
structure Live where
  run : Run
  disk : Files

/-- A running service that several tasks share. -/
abbrev Shared := Std.Mutex Live

namespace Live

/-- Go on from a new state: the disk gets what has changed, and the log is printed. If the disk
cannot be written, the old state stays. -/
def goOn (live : Live) (run : Run) : IO Live := do
  writeChanges live.disk run.service.files
  for event in run.service.log.reverse do
    printEvent event run.service.now
  let supply := { run.service.supply with asked := [] }
  return ⟨{ run with service := { run.service with log := [], supply } }, run.service.files⟩

end Live

namespace Shared

def change (shared : Shared) (f : Run → Run) : IO Unit := do
  let now ← clock
  shared.atomically do
    let live ← get
    set (← live.goOn (f { live.run with service := live.run.service.atTime now }))

def respond (shared : Shared) (request : Http.Request) : IO Http.Response := do
  let now ← clock
  shared.atomically do
    let live ← get
    let (response, service) := (live.run.service.atTime now).respond request
    try
      set (← live.goOn { live.run with service })
      return response
    catch e =>
      return .error 500 (toString e)

end Shared

/-! ### The backend -/

/-- Receive all bytes up to the end of a connection. -/
def receiveAll (socket : TCP.Socket.Client) : Async ByteArray := do
  let mut received := ByteArray.empty
  repeat
    match ← socket.recv? 65536 with
    | some bytes => received := received ++ bytes
    | none => break
  return received

/-- The addresses of a port of a host. -/
def addressesOf (host : Host) (port : UInt16) : Async (List Std.Net.SocketAddress) := do
  let addresses ← DNS.getAddrInfo host.lookupText (toString port)
  return addresses.toList.map fun
    | .v4 addr => .v4 ⟨addr, port⟩
    | .v6 addr => .v6 ⟨addr, port⟩

/-- Send bytes to the first address that takes a connection, and receive the answer. -/
def exchangeBytes (request : Bytes) : List Std.Net.SocketAddress → Async (Option Bytes)
  | [] => return none
  | address :: rest => do
    try
      let socket ← TCP.Socket.Client.mk
      socket.connect address
      socket.send ⟨request.toArray⟩
      return some (← receiveAll socket).toList
    catch _ => exchangeBytes request rest

/-- The answer to the request for a URL, if one comes. -/
def fetch (u : Url) : Async (Option Answer) := do
  match u.authority, u.plainPort? with
  | some authority, some port =>
    try
      let addresses ← addressesOf authority.host port.toUInt16
      return (← exchangeBytes u.request addresses).bind Answer.ofBytes?
    catch _ => return none
  | _, _ => return none

/-- The outcome of a query; no answer counts that takes longer than so many milliseconds. -/
def ask (endpoint : Endpoint) (timeout : Nat) (query : String) :
    Async (Except QueryError (List Series)) := do
  match endpoint.queryUrl query with
  | .error e => return .error e
  | .ok url =>
    let giveUp : Async (Option Answer) := do
      sleep (.ofNat timeout)
      return none
    return endpoint.ask query (← Async.race (fetch url) giveUp)

/-! ### The map of clusters over time -/

/-- What the program waits for. -/
inductive Wait where
  /-- Something may be due now. -/
  | none
  /-- Nothing is due for so many milliseconds. -/
  | for (milliseconds : Nat)
  /-- Nothing more will be due. -/
  | forever

/-- Let happen what is due first, if it is due. Only here do maps change. -/
def proceed (shared : Shared) (timeout : Nat) : Async Wait := do
  let time ← clock
  let live ← shared.atomically get
  match live.run.service.first? with
  | none => return .forever
  | some (due, ref, pending) =>
    if time < due then return .for (due - time)
    let supply ← match pending, live.run.service.map? ref with
      | .asks _, some m => do
        let outcome ← ask live.run.endpoint timeout m.query
        pure fun (s : Service) => { s with supply := .always outcome }
      | _, _ => pure id
    shared.change fun run => { run with service := (supply run.service).perform ref pending }
    return .none

/-- Proceed until the first snapshot is loaded, the background loop has started, or
everything has ended. -/
def proceedWhile (shared : Shared) (timeout : Nat) (busy : Service → Bool) : Async Unit := do
  repeat
    if !busy (← shared.atomically get).run.service then break
    match ← proceed shared timeout with
    | .none => pure ()
    | .for milliseconds => sleep (.ofNat milliseconds)
    | .forever => break

def proceedUntil (shared : Shared) (timeout : Nat) (interrupt : Signal.Waiter) : Async Unit := do
  repeat
    let stopped ← match ← proceed shared timeout with
      | .none => pure false
      | .for milliseconds =>
        Selectable.one #[
          .case (← Selector.sleep (.ofNat milliseconds)) fun _ => pure false,
          .case interrupt.selector fun _ => pure true]
      | .forever => Selectable.one #[.case interrupt.selector fun _ => pure true]
    if stopped then break

/-! ### Requests -/

/-- What listens for requests and answers them. -/
structure Listener where
  shared : Shared

def Http.Response.send (r : Http.Response) : Async (Std.Http.Response Std.Http.Body.Any) := do
  let status := (Std.Http.Status.ofCode none r.status.toUInt16).getD .internalServerError
  let builder := Std.Http.Response.withStatus status
  let builder := (r.contentType.bind (builder.header? "content-type")).getD builder
  let body ← Std.Http.Body.Full.ofByteArray ⟨r.body.toArray⟩
  return builder.body (.ofBody body)

instance : Std.Http.Server.Handler Listener where
  onRequest listener request := do
    let body : ByteArray ← request.body.readAll
    let response ← listener.shared.respond
      ⟨toString request.line.method, toString request.line.uri, body.toList⟩
    response.send

/-! ### The program -/

def absolute (path : String) : IO String := do
  if path.startsWith "/" then return path else return toString (← IO.currentDir) ++ "/" ++ path

/-- The files that the settings may come from. -/
def readSettingsFiles (environment : Dictionary String) : IO Files := do
  match environment.get? Settings.fileVariable with
  | none => return .empty ""
  | some name =>
    (name :: SettingsFormat.all.map (name ++ "." ++ ·.ending)).foldlM readPath (.empty "")

def withAbsolutePaths (environment : Dictionary String) : IO (Dictionary String) := do
  match environment.get? Settings.fileVariable with
  | none => return environment
  | some path => return environment.insert Settings.fileVariable (← absolute path)

/-- Say why the service does not start. -/
def complain (e : StartError) : IO UInt32 := do
  let outcome := Outcome.ofError e
  if let some complaint := outcome.complaint then IO.eprintln complaint
  return outcome.exitCode.toUInt32

def runService (settings : Settings) (files : Files) : Async UInt32 := do
  let files ← match settings.cardPath with
    | none => pure files
    | some path => readPath files path
  match Run.launch settings files (← clock) with
  | .error e => complain e
  | .ok run =>
    let timeout := settings.queryTimeout * 1000
    let shared : Shared ← Std.Mutex.new ⟨run, files⟩
    shared.change id
    proceedWhile shared timeout fun s => s.isLoading
    shared.change Run.ready
    let interrupt ← Signal.Waiter.mk .sigint false
    let address := Std.Net.SocketAddress.v4 ⟨.ofParts 0 0 0 0, settings.apiPort.toUInt16⟩
    let server ←
      try pure (some (← Std.Http.Server.serve address (Listener.mk shared)))
      catch _ => pure none
    proceedUntil shared timeout interrupt
    shared.change fun run => run.close (if server.isNone then some .portTaken else none)
    if let some server := server then server.shutdownAndWait
    shared.change fun run => { run with service := run.service.stepMap .current .stop }
    proceedWhile shared timeout (·.isRefreshing)
    return 0

end ClusterCost

def main : IO UInt32 := do
  let environment ← ClusterCost.withAbsolutePaths (← ClusterCost.readEnvironment)
  let files ← ClusterCost.readSettingsFiles environment
  match ClusterCost.Settings.load environment files with
  | .error e => ClusterCost.complain (.settings e)
  | .ok settings =>
    let cardPath ← settings.cardPath.mapM ClusterCost.absolute
    (ClusterCost.runService { settings with cardPath } files).block
