import ClusterCost.Cluster.Snapshot
import ClusterCost.Query.Retry

/-!
# Refreshing a snapshot

A refresher holds the current snapshot and replaces it from time to time. Its background loop starts
a refresh at each multiple of the interval after the loop's start, or, if the one before is still
under way then, as soon as that has finished; others may ask for refreshes at any time, and these
overlap freely. A refresh asks its query up to a number of times with a delay after each failure;
the first answer replaces the snapshot, and if none comes the snapshot stays.

Each step is what happens between two points of waiting. Steps say in reports what has happened.
Times are in milliseconds.
-/

namespace ClusterCost

/-- How a refresher works. -/
structure RefreshSettings where
  ownId : String
  interval : Nat
  interval_pos : 0 < interval := by decide
  /-- How often a refresh asks, at most. -/
  attempts : Nat
  delay : Nat
  deriving DecidableEq, Repr

namespace RefreshSettings

/-- The interval where none, or zero, is given. -/
def defaultInterval : Nat := 300000

def defaultAttempts : Nat := 6

def defaultDelay : Nat := 10000

/-- Whether the clock cannot represent the time that is one interval ahead of this one. -/
def isTooLong (s : RefreshSettings) (now : Nat) : Bool :=
  (Nat.pow 2 63 - 1) * 1000 ≤ now + s.interval

end RefreshSettings

/-- What a refresh waits for. -/
inductive Phase where
  | asking
  | waiting (time : Nat)
  deriving DecidableEq, Repr

/-- A refresh under way: when it started, the number of its attempt, and what it waits for. -/
structure Job where
  startedAt : Nat
  attempt : Nat := 1
  phase : Phase := .asking
  deriving DecidableEq, Repr

/-- The background loop. -/
inductive Loop where
  | loading (job : Job)
  | starting
  | idle (due : Nat)
  /-- The loop's refresh is under way; the one after it is due then. -/
  | refreshing (due : Nat) (job : Job)
  | ended
  deriving DecidableEq, Repr

/-- Something that happened. -/
inductive Report where
  | skippedRow (error : QueryError)
  | withoutOwn (clusterId : String) (error : IdentityError)
  /-- A refresh that took so long replaced the snapshot by one of so many clusters. -/
  | refreshed (elapsed clusters : Nat)
  /-- A refresh that took so long failed in all attempts. -/
  | failed (elapsed attempts : Nat) (error : QueryError)
  | loopStarted (interval : Nat)
  | loopStopped

/-- A snapshot and the refreshes under way. -/
structure Refresher where
  settings : RefreshSettings
  snapshot : Snapshot := .empty
  loop : Loop
  requested : List Job := []
  stopping : Bool := false

/-- The refreshes that may be under way: the loop's one, its first load included, and
those asked for. -/
inductive Worker where
  | loop
  | requested (index : Nat)
  deriving DecidableEq, Repr

namespace Refresher

def start (settings : RefreshSettings) (now : Nat) : Refresher :=
  { settings, loop := .loading { startedAt := now } }

def job? (m : Refresher) : Worker → Option Job
  | .loop =>
    match m.loop with
    | .loading job | .refreshing _ job => some job
    | _ => none
  | .requested index => m.requested[index]?

/-- Put another state of a worker's refresh in place. -/
def setJob (m : Refresher) (w : Worker) (job : Job) : Refresher :=
  match w with
  | .loop =>
    match m.loop with
    | .loading _ => { m with loop := .loading job }
    | .refreshing due _ => { m with loop := .refreshing due job }
    | _ => m
  | .requested index => { m with requested := m.requested.set index job }

/-- The loop at its start. A loop with too long an interval ends at once. -/
def startLoop (s : RefreshSettings) (now : Nat) : Loop :=
  if s.isTooLong now then .ended else .idle (now + s.interval)

def finish (m : Refresher) : Worker → Refresher
  | .loop =>
    match m.loop with
    | .loading _ => { m with loop := .starting }
    | .refreshing due _ => { m with loop := .idle due }
    | _ => m
  | .requested index => { m with requested := m.requested.eraseIdx index }

def load (m : Refresher) (elapsed : Nat) (rows : List Series) (identity : Dictionary String) :
    Refresher × List Report :=
  let made := Snapshot.assemble m.settings.ownId rows identity
  ({ m with snapshot := made.snapshot },
    made.skipped.map .skippedRow ++ made.withoutOwn.toList.map (.withoutOwn m.settings.ownId) ++
      [.refreshed elapsed made.snapshot.size])

/-! ### Steps -/

/-- What may happen next. -/
inductive Step where
  | request
  /-- A worker gets the answer to its query; `identity` is the local identity at that time. -/
  | answer (w : Worker) (outcome : Except QueryError (List Series)) (identity : Dictionary String)
  | wake (w : Worker)
  /-- The loop starts, once the first load has finished. -/
  | begin
  | tick
  | stop
  /-- The loop notices that it was told to stop. -/
  | leave

def answer (m : Refresher) (now : Nat) (w : Worker) (job : Job)
    (outcome : Except QueryError (List Series)) (identity : Dictionary String) :
    Refresher × List Report :=
  let limit := Retry.limit m.settings.attempts
  let elapsed := now - job.startedAt
  match Retry.decide limit job.attempt outcome with
  | .again =>
    (m.setJob w
       { job with attempt := job.attempt + 1, phase := .waiting (now + m.settings.delay) },
     [])
  | .finished (.ok rows) =>
    let (m, reports) := m.load elapsed rows identity
    (m.finish w, reports)
  | .finished (.error e) => (m.finish w, [.failed elapsed limit e])

/-- Take a step at a time, if it is possible then. A tick that is due and a stop that was asked
for are both possible. -/
def step (m : Refresher) (now : Nat) : Step → Option (Refresher × List Report)
  | .request =>
    match m.loop with
    | .loading _ => none
    | _ => some ({ m with requested := m.requested ++ [{ startedAt := now }] }, [])
  | .answer w outcome identity =>
    match m.job? w with
    | some job => if job.phase = .asking then some (m.answer now w job outcome identity) else none
    | none => none
  | .wake w =>
    match m.job? w with
    | some job =>
      match job.phase with
      | .waiting time =>
        if time ≤ now then some (m.setJob w { job with phase := .asking }, []) else none
      | .asking => none
    | none => none
  | .begin =>
    match m.loop with
    | .starting =>
      some ({ m with loop := startLoop m.settings now }, [.loopStarted m.settings.interval])
    | _ => none
  | .tick =>
    match m.loop with
    | .idle due =>
      if due ≤ now then
        some ({ m with loop := .refreshing (due + m.settings.interval) { startedAt := now } }, [])
      else none
    | _ => none
  | .stop => some ({ m with stopping := true }, [])
  | .leave =>
    match m.loop with
    | .idle _ => if m.stopping then some ({ m with loop := .ended }, [.loopStopped]) else none
    | _ => none

def isRefreshing (m : Refresher) : Bool := m.loop != .ended

def isLoading (m : Refresher) : Bool :=
  match m.loop with
  | .loading _ => true
  | _ => false

def isBusy (m : Refresher) : Bool := m.isRefreshing || !m.requested.isEmpty

/-! ### What comes next by itself -/

/-- A step that happens by itself; the answer to a query is still to be found. -/
inductive Pending where
  | asks (w : Worker)
  | wakes (w : Worker)
  | begins
  | ticks
  | leaves
  deriving DecidableEq, Repr

def pendingOf (now : Nat) (w : Worker) (job : Job) : Nat × Pending :=
  match job.phase with
  | .asking => (now, .asks w)
  | .waiting time => (time, .wakes w)

/-- What those do next who wait for a refresh: for the first load, or for one that they
asked for. -/
def pendingAwaited (m : Refresher) (now : Nat) : List (Nat × Pending) :=
  m.requested.mapIdx (fun index job => pendingOf now (.requested index) job) ++
    match m.loop with
    | .loading job => [pendingOf now .loop job]
    | _ => []

/-- What the loop does next, and when. A loop that was told to stop leaves at once, but if a refresh
is overdue by then it may as well start that one; it does so if `overtime` is not used up. -/
def pendingLoop (m : Refresher) (now overtime : Nat) : List (Nat × Pending) :=
  match m.loop with
  | .refreshing _ job => [pendingOf now .loop job]
  | .starting => [(now, .begins)]
  | .idle due =>
    if !m.stopping then [(due, .ticks)]
    else if due ≤ now && 0 < overtime then [(now, .ticks)]
    else [(now, .leaves)]
  | .loading _ | .ended => []

/-! ### How long things can take -/

def longestWait (m : Refresher) : Nat := Retry.limit m.settings.attempts * m.settings.delay

/-- The number of ticks from one that is due at this time up to a horizon. -/
def ticksUpTo (s : RefreshSettings) (due horizon : Nat) : Nat :=
  if due ≤ horizon then (horizon - due) / s.interval + 1 else 0

/-- A bound of the steps that a refresh still takes by itself: an answer for each attempt, and a
wait before each but the first. -/
def jobSteps (s : RefreshSettings) (job : Job) : Nat :=
  match job.phase with
  | .asking => 2 * (Retry.limit s.attempts - job.attempt) + 1
  | .waiting _ => 2 * (Retry.limit s.attempts - job.attempt) + 2

/-- A bound of the steps from a tick that is due at this time up to a horizon, each tick with its
refresh, and of leaving. -/
def idleSteps (s : RefreshSettings) (due horizon : Nat) : Nat :=
  ticksUpTo s due horizon * (2 * Retry.limit s.attempts) + 1

def loopSteps (m : Refresher) (now horizon : Nat) : Nat :=
  match m.loop with
  | .loading job =>
    jobSteps m.settings job + (idleSteps m.settings (now + m.settings.interval) horizon + 1)
  | .starting => idleSteps m.settings (now + m.settings.interval) horizon + 1
  | .idle due => idleSteps m.settings due horizon
  | .refreshing due job => jobSteps m.settings job + idleSteps m.settings due horizon
  | .ended => 0

/-- A bound of the steps that happen by themselves up to a horizon. Each of them lowers it. -/
def stepBound (m : Refresher) (now horizon : Nat) : Nat :=
  m.requested.foldr (fun job total => jobSteps m.settings job + total) 0 + m.loopSteps now horizon

end Refresher

end ClusterCost
