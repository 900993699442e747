import ClusterCost.Service.Basic

/-!
# The cluster maps of a service over time

Refreshes go on by themselves as time passes. Of several things that are due at one time those come
first that somebody waits for, then the background loops, the oldest map first.
-/

namespace ClusterCost

/-- One of a service's maps. -/
inductive MapRef where
  | current
  | retired (index : Nat)
  deriving DecidableEq, Repr

namespace Service

def map? (s : Service) : MapRef → Option ClusterMap
  | .current => s.map
  | .retired index => s.retired[index]?

def setMap (s : Service) (ref : MapRef) (m : ClusterMap) : Service :=
  match ref with
  | .current => { s with map := some m }
  | .retired index => { s with retired := s.retired.set index m }

def refs (s : Service) : List MapRef :=
  (List.range s.retired.length).map .retired ++ if s.map.isSome then [.current] else []

/-- The local identity as a map sees it. -/
def identityOf (s : Service) (m : ClusterMap) : Dictionary String :=
  match m.identity with
  | .provider => s.provider.clusterInfo
  | .fixed values => values

/-! ### Steps -/

/-- Let a map take a step, and take note of its reports. A step that is not possible
changes nothing. -/
def stepMap (s : Service) (ref : MapRef) (step : Refresher.Step) : Service :=
  match s.map? ref with
  | none => s
  | some m =>
    match m.refresher.step s.now step with
    | none => s
    | some (refresher, reports) =>
      let m := { m with refresher }
      reports.foldl (fun s report => s.note m report) (s.setMap ref m)

/-- Count a refresh that a loop starts although it has been told to stop. -/
def useOvertime (s : Service) (ref : MapRef) : Service :=
  match s.map? ref with
  | none => s
  | some m => if m.refresher.stopping then s.setMap ref { m with overtime := m.overtime - 1 } else s

def perform (s : Service) (ref : MapRef) : Refresher.Pending → Service
  | .asks w =>
    match s.map? ref with
    | none => s
    | some m =>
      let (outcome, supply) := s.supply.ask m.query
      { s with supply }.stepMap ref (.answer w outcome (s.identityOf m))
  | .wakes w => s.stepMap ref (.wake w)
  | .begins => s.stepMap ref .begin
  | .ticks => (s.useOvertime ref).stepMap ref .tick
  | .leaves => s.stepMap ref .leave

/-- All that is pending, in the order in which it happens when it is due at one time. -/
def pending (s : Service) : List (Nat × MapRef × Refresher.Pending) :=
  let ofMaps (f : ClusterMap → List (Nat × Refresher.Pending)) :
      List (Nat × MapRef × Refresher.Pending) :=
    s.refs.flatMap fun ref => ((s.map? ref).elim [] f).map fun (time, p) => (time, ref, p)
  ofMaps (·.refresher.pendingAwaited s.now) ++
    ofMaps fun m => m.refresher.pendingLoop s.now m.overtime

/-- The service at a time; its clock does not go back. -/
def atTime (s : Service) (time : Nat) : Service := { s with now := max s.now time }

/-- The one of two that comes earlier; of two that come at one time it is the first. -/
def earlier {α : Type} : (best : Option (Nat × α)) → (next : Nat × α) → Option (Nat × α)
  | none, next => some next
  | some best, next => if next.1 < best.1 then some next else some best

def first? (s : Service) : Option (Nat × MapRef × Refresher.Pending) := s.pending.foldl earlier none

/-- Let happen what is due first, if it is due by this time. -/
def stepBy? (s : Service) (horizon : Nat) : Option Service :=
  match s.first? with
  | none => none
  | some (time, ref, p) => if time ≤ horizon then some ((s.atTime time).perform ref p) else none

/-- Let happen what is due by a time, until the condition holds; `fuel` bounds the steps. -/
def runFrom (horizon : Nat) (done : Service → Bool) : (fuel : Nat) → Service → Service
  | 0, s => s
  | fuel + 1, s =>
    if done s then s
    else
      match s.stepBy? horizon with
      | none => s
      | some s => runFrom horizon done fuel s

/-- A bound of the steps that happen by themselves up to a time. -/
def stepBound (s : Service) (horizon : Nat) : Nat :=
  s.retired.foldr (fun m total => m.refresher.stepBound s.now horizon + total) 0 +
    s.map.elim 0 (·.refresher.stepBound s.now horizon)

/-- Let happen what is due by a time, until the condition holds. -/
def run (s : Service) (horizon : Nat) (done : Service → Bool) : Service :=
  s.runFrom horizon done (s.stepBound horizon)

def settle (s : Service) : Service := s.run s.now fun _ => false

def advance (s : Service) (milliseconds : Nat) : Service :=
  let horizon := s.now + milliseconds
  { s.run horizon fun _ => false with now := horizon }

/-- The latest time at which a refresh that is under way now can finish. -/
def patience (s : Service) : Nat := s.now + (s.map.elim 0 fun m => m.refresher.longestWait)

/-- The latest time at which a loop that has been told to stop can end. -/
def stopPatience (s : Service) : Nat :=
  s.now + (s.map.elim 0 fun m => (m.overtime + 1) * m.refresher.longestWait)

/-! ### Actions -/

/-- Whether the current map is still loading its first snapshot. -/
def isLoading (s : Service) : Bool := s.map.elim false (·.refresher.isLoading)

/-- How a map is to be made. A time that is not given has its default. -/
structure MapPlan where
  ownId : String
  interval : Option Nat := none
  attempts : Nat := RefreshSettings.defaultAttempts
  delay : Nat := RefreshSettings.defaultDelay
  modifier : String := ""
  identity : IdentitySource := .provider
  inMetrics : Bool := true
  inHealth : Bool := true

namespace MapPlan

/-- How the map's refresher works; an interval of zero stands for the default. -/
def settings (p : MapPlan) : RefreshSettings where
  ownId := p.ownId
  interval := match p.interval with
    | none | some 0 => RefreshSettings.defaultInterval
    | some interval => interval
  interval_pos := by
    split
    · decide
    · decide
    · rename_i hne _
      exact Nat.pos_of_ne_zero hne
  attempts := p.attempts
  delay := p.delay

end MapPlan

/-- Put the current map, which is told to stop, with those that have been replaced. Of these only
the ones that have something left to do are kept. -/
def retire (s : Service) : Service :=
  let s := s.stepMap .current .stop
  { s with map := none, retired := (s.retired ++ s.map.toList).filter (·.refresher.isBusy) }

/-- Put a new map in place of the one that is there. Its first load has yet to happen. -/
def placeMap (s : Service) (p : MapPlan) : Service :=
  let s := s.retire
  let s :=
    if p.interval == some 0 then s.record (.zeroInterval (RefreshSettings.defaultInterval / 1000))
    else s
  let s :=
    if p.inHealth then { s with health := s.health.setHealthy s.seconds Component.clusterMap }
    else s
  let map : ClusterMap :=
    { refresher := .start p.settings s.now, modifier := p.modifier, identity := p.identity,
      inMetrics := p.inMetrics
      inHealth := p.inHealth }
  { s with map := some map }

/-- Wait for the first load of the current map. -/
def awaitMap (s : Service) : Service := (s.run s.patience (!·.isLoading)).settle

/-- Make the map, in place of the one that is there, and wait for its first load. -/
def buildMap (s : Service) (p : MapPlan) : Service := (s.placeMap p).awaitMap

def refresh (s : Service) : Service :=
  let s := s.stepMap .current .request
  (s.run s.patience fun s => s.map.elim true (·.refresher.requested.isEmpty)).settle

def stop (s : Service) : Service := (s.stepMap .current .stop).settle

def isRefreshing (s : Service) : Bool := s.map.elim false (·.refresher.isRefreshing)

/-- Tell the map to stop its refreshes and wait until they have. -/
def shutDown (s : Service) : Service :=
  let s := s.stepMap .current .stop
  (s.run s.stopPatience (!·.isRefreshing)).settle

/-- The service with another provider. Maps that read the identity of the old one keep
it as it was. -/
def setProvider (s : Service) (provider : Provider) (inMetrics : Bool) : Service :=
  let keep (m : ClusterMap) : ClusterMap := { m with identity := .fixed (s.identityOf m) }
  { s with
    provider, providerInMetrics := inMetrics, map := s.map.map keep, retired := s.retired.map keep }

end Service

end ClusterCost
