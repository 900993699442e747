import ClusterCost.Service.Basic
import Mathlib.Tactic.Common

/-!
# Health with a cluster map that may be stale

The cluster map is the one component whose reports change while the service runs, and at worst it is
degraded. Then the service as a whole is degraded, but it stays ready.
-/

namespace ClusterCost

/-! ### The worst of several -/

namespace Status

lemma rank_injective {s t : Status} (h : s.rank = t.rank) : s = t := by
  cases s <;> cases t <;> first | rfl | cases h

lemma foldl_worse (statuses : List Status) (s : Status) :
    (statuses.foldl worse s = s ∨ statuses.foldl worse s ∈ statuses) ∧
    s.rank ≤ (statuses.foldl worse s).rank ∧
      ∀ t ∈ statuses, t.rank ≤ (statuses.foldl worse s).rank := by
  induction statuses generalizing s with
  | nil => exact ⟨.inl rfl, Nat.le_refl _, nofun⟩
  | cons t rest ih =>
    obtain ⟨hmem, hle, hrest⟩ := ih (worse s t)
    have hworse : (worse s t = s ∨ worse s t = t) ∧ s.rank ≤ (worse s t).rank ∧
        t.rank ≤ (worse s t).rank := by
      rw [worse]
      split_ifs with hlt
      · exact ⟨.inr rfl, Nat.le_of_lt hlt, Nat.le_refl _⟩
      · exact ⟨.inl rfl, Nat.le_refl _, Nat.le_of_not_lt hlt⟩
    obtain ⟨hone, hs, ht⟩ := hworse
    rw [List.foldl_cons]
    refine ⟨?_, Nat.le_trans hs hle, ?_⟩
    · rcases hmem with hmem | hmem
      · rw [hmem]
        rcases hone with hone | hone
        · exact .inl hone
        · rw [hone]
          exact .inr List.mem_cons_self
      · exact .inr (List.mem_cons_of_mem _ hmem)
    · intro u hu
      rcases List.mem_cons.mp hu with rfl | hu
      · exact Nat.le_trans ht hle
      · exact hrest u hu

/-- The worst of several is one that is at least as bad as all of them. -/
lemma worst_eq {statuses : List Status} {s : Status} (hmem : s ∈ statuses)
    (hle : ∀ t ∈ statuses, t.rank ≤ s.rank) : worst statuses = s := by
  obtain ⟨hone, -, hall⟩ := foldl_worse statuses healthy
  apply rank_injective
  refine Nat.le_antisymm ?_ (hall s hmem)
  rcases hone with hhealthy | hmem'
  · rw [worst, hhealthy]
    exact Nat.zero_le _
  · exact hle _ hmem'

end Status

namespace Health

/-! ### A stale cluster map -/

/-- How a component is if only the cluster map may be stale. -/
def expected (stale : Bool) (name : String) : Status :=
  if name = Component.clusterMap ∧ stale = true then .degraded else .healthy

/-- All components are healthy, except that the cluster map, which is one of them, is
degraded if it is stale. -/
structure Shows (h : Health) (stale : Bool) : Prop where
  status : ∀ entry ∈ h.components.entries, entry.2.status = expected stale entry.1
  map : ∃ r, (Component.clusterMap, r) ∈ h.components.entries

section Shows

variable {h : Health} {stale stale' : Bool}

lemma Shows.report (shows : h.Shows stale) {r : ComponentHealth}
    (hr : r.status = expected stale' Component.clusterMap) :
    (h.report Component.clusterMap r).Shows stale' where
  status := by
    intro entry hentry
    rcases (Dictionary.mem_entries_insert _ _ _ _).mp hentry with rfl | ⟨hold, hname⟩
    · exact hr
    · rw [shows.status entry hold, expected, expected, if_neg (fun h => hname h.1),
        if_neg (fun h => hname h.1)]
  map := ⟨r, (Dictionary.mem_entries_insert _ _ _ _).mpr (.inl rfl)⟩

/-- A cluster map that is reported healthy joins healthy components. -/
lemma shows_of_healthy (hhealthy : ∀ entry ∈ h.components.entries, entry.2.status = .healthy)
    (now : Int) : (h.setHealthy now Component.clusterMap).Shows false where
  status := by
    intro entry hentry
    rcases (Dictionary.mem_entries_insert _ _ _ _).mp hentry with rfl | ⟨hold, -⟩
    · rfl
    · simp [hhealthy entry hold, expected]
  map := ⟨_, (Dictionary.mem_entries_insert _ _ _ _).mpr (.inl rfl)⟩

lemma Shows.setHealthy (shows : h.Shows stale) (now : Int) :
    (h.setHealthy now Component.clusterMap).Shows false :=
  shows.report rfl

lemma Shows.setDegraded (shows : h.Shows stale) (now : Int) (message : String) :
    (h.setDegraded now Component.clusterMap message).Shows true :=
  shows.report rfl

lemma Shows.setReady (shows : h.Shows stale) (ready : Bool) : (h.setReady ready).Shows stale :=
  ⟨shows.status, shows.map⟩

lemma rank_expected_le (stale : Bool) (name : String) :
    (expected stale name).rank ≤ (expected stale Component.clusterMap).rank := by
  rw [expected, expected]
  cases stale
  · simp
  · split_ifs with hname hmap hmap
    · exact Nat.le_refl _
    · exact absurd ⟨rfl, rfl⟩ hmap
    · exact Nat.zero_le _
    · exact Nat.le_refl _

lemma Shows.liveness (shows : h.Shows stale) :
    h.liveness.status = if stale then .degraded else .healthy := by
  obtain ⟨r, hr⟩ := shows.map
  have hstatuses : ∀ s ∈ h.components.values.map (·.status), ∃ entry ∈ h.components.entries,
      s = expected stale entry.1 := by
    intro s hs
    simp only [Dictionary.values, List.map_map, List.mem_map] at hs
    obtain ⟨entry, hentry, rfl⟩ := hs
    exact ⟨entry, hentry, shows.status entry hentry⟩
  have hmap : expected stale Component.clusterMap ∈ h.components.values.map (·.status) := by
    rw [← shows.status _ hr]
    exact List.mem_map_of_mem (List.mem_map_of_mem hr)
  have hworst : h.liveness.status = expected stale Component.clusterMap := by
    refine Status.worst_eq hmap ?_
    intro s hs
    obtain ⟨entry, -, rfl⟩ := hstatuses s hs
    exact rank_expected_le stale entry.1
  rw [hworst, expected]
  cases stale <;> simp

lemma Shows.operational (shows : h.Shows stale) :
    ∀ entry ∈ h.components.entries, entry.2.status ≠ .unhealthy := by
  intro entry hentry
  rw [shows.status entry hentry, expected]
  split_ifs <;> nofun

lemma Shows.readiness (shows : h.Shows stale) (hready : h.ready = true) :
    h.readiness = ⟨true, none⟩ := by
  have hnames : h.unhealthyNames = [] := by
    rw [unhealthyNames, List.filter_eq_nil_iff.mpr]
    · simp [Dictionary.sorted]
    · intro entry hentry
      simpa [Status.isOperational] using shows.operational entry hentry
  rw [Health.readiness, hready, hnames]
  rfl

end Shows

end Health

end ClusterCost
