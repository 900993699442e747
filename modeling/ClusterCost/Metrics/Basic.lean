import ClusterCost.Dictionary

/-!
# Metrics

Counters, a gauge and a histogram of refresh times. A counter with an outcome exists from the first
time its outcome is named, be it to count or to read.
-/

namespace ClusterCost

/-- Counts by outcome. -/
abbrev Counters := Dictionary Nat

namespace Counters

def count (c : Counters) (outcome : String) : Nat := (c.get? outcome).getD 0

/-- The counters after an outcome has been named. -/
def name (c : Counters) (outcome : String) : Counters := c.insert outcome (c.count outcome)

def increment (c : Counters) (outcome : String) : Counters := c.insert outcome (c.count outcome + 1)

theorem count_increment (c : Counters) (outcome other : String) :
    (c.increment outcome).count other = c.count other + if other = outcome then 1 else 0 := by
  simp only [count, increment, Dictionary.get?_insert]
  by_cases h : other = outcome
  · subst h; simp
  · simp [h]

/-- To name an outcome counts nothing. -/
theorem count_name (c : Counters) (outcome other : String) :
    (c.name outcome).count other = c.count other := by
  simp only [count, name, Dictionary.get?_insert]
  by_cases h : other = outcome
  · subst h; simp
  · simp [h]

end Counters

/-- The upper bounds of the histogram's buckets, in seconds. -/
def latencyBounds : List Float := [0.01, 0.05, 0.1, 0.25, 0.5, 1.0, 2.5, 5.0, 10.0, 30.0, 60.0]

/-- Observed times: how many there were, their sum, and how many fell into each bucket. -/
structure Histogram where
  count : Nat := 0
  sum : Float := 0.0
  buckets : List Nat := latencyBounds.map fun _ => 0

namespace Histogram

/-- Count a time in the first bucket whose bound it does not pass. -/
def place (seconds : Float) : List Float → List Nat → List Nat
  | bound :: bounds, n :: rest =>
    if seconds ≤ bound then (n + 1) :: rest else n :: place seconds bounds rest
  | _, counts => counts

def observe (h : Histogram) (seconds : Float) : Histogram :=
  { count := h.count + 1, sum := h.sum + seconds, buckets := place seconds latencyBounds h.buckets }

end Histogram

structure Metrics where
  /-- The number of clusters in the snapshot, in 64 bits with a sign. -/
  clusters : Int := 0
  refreshes : Counters := .empty
  latency : Histogram := {}
  rowsSkipped : Nat := 0
  rebuilds : Nat := 0
  updates : Counters := .empty

namespace Metrics

/-- A refresh replaced the snapshot by one of so many clusters. -/
def refreshed (m : Metrics) (seconds : Float) (clusters : Nat) : Metrics :=
  { m with
    latency := m.latency.observe seconds, refreshes := m.refreshes.increment "success"
    clusters := (clusters : Int).bmod (Nat.pow 2 64) }

def refreshFailed (m : Metrics) (seconds : Float) : Metrics :=
  { m with latency := m.latency.observe seconds, refreshes := m.refreshes.increment "failure" }

def skippedRow (m : Metrics) : Metrics := { m with rowsSkipped := m.rowsSkipped + 1 }

def rebuilt (m : Metrics) : Metrics := { m with rebuilds := m.rebuilds + 1 }

/-- An update of the rate card was accepted or refused. -/
def updated (m : Metrics) (accepted : Bool) : Metrics :=
  { m with updates := m.updates.increment (if accepted then "success" else "rejected") }

end Metrics

end ClusterCost
