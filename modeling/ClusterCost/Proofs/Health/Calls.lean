import ClusterCost.Proofs.Dictionary
import ClusterCost.Proofs.Health
import ClusterCost.Proofs.Text.Order

/-!
# The health after any calls

Of the reports on a component only the last stands (`lastReport`), and of the declarations that the
service is ready only the last counts (`lastReady`). The status as a whole is the worst of the
reports that stand (`isOverall_run`), and readiness agrees with it: a service that has been declared
ready is ready unless its status is unhealthy (`ready_run_iff`), and otherwise the reason lists the
components that are (`reason_run`).
-/

namespace ClusterCost.Health

/-! ### Calls -/

/-- What may be asked of the health. Everybody who holds it acts on the same health, so the calls of
all holders make up one sequence. -/
inductive Call where
  | register (now : Int) (name : String)
  | update (name : String) (r : ComponentHealth)
  | setHealthy (now : Int) (name : String)
  | setDegraded (now : Int) (name message : String)
  | setUnhealthy (now : Int) (name message : String)
  | setReady (ready : Bool)

namespace Call

/-- The component that a call reports on, with the report. -/
def report? : Call → Option (String × ComponentHealth)
  | register now name | setHealthy now name => some (name, ⟨.healthy, none, now⟩)
  | update name r => some (name, r)
  | setDegraded now name message => some (name, ⟨.degraded, some message, now⟩)
  | setUnhealthy now name message => some (name, ⟨.unhealthy, some message, now⟩)
  | setReady _ => none

/-- What a call declares about being ready. -/
def ready? : Call → Option Bool
  | setReady ready => some ready
  | _ => none

end Call

def perform (h : Health) : Call → Health
  | .register now name => h.register now name
  | .update name r => h.report name r
  | .setHealthy now name => h.setHealthy now name
  | .setDegraded now name message => h.setDegraded now name message
  | .setUnhealthy now name message => h.setUnhealthy now name message
  | .setReady ready => h.setReady ready

/-- The health after these calls, from the first. -/
def run (calls : List Call) : Health := calls.foldl perform {}

/-- All reports, in the order in which they were made. -/
def reports (calls : List Call) : List (String × ComponentHealth) := calls.filterMap Call.report?

/-- The reports on one component. -/
def reportsOn (calls : List Call) (name : String) : List (String × ComponentHealth) :=
  (reports calls).filter (·.1 == name)

/-- The report on a component that stands. -/
def lastReport (calls : List Call) (name : String) : Option ComponentHealth :=
  lastValue (reports calls) name

/-- Whether the service has last been declared ready; it is not from the start. -/
def lastReady (calls : List Call) : Bool := (calls.filterMap Call.ready?).getLast?.getD false

/-! ### What calls leave behind -/

lemma components_perform (h : Health) (call : Call) :
    (h.perform call).components =
      call.report?.elim h.components fun entry => h.components.insert entry.1 entry.2 := by
  cases call <;> rfl

lemma ready_perform (h : Health) (call : Call) :
    (h.perform call).ready = call.ready?.getD h.ready := by
  cases call <;> rfl

lemma get?_foldl_perform (calls : List Call) (h : Health) (name : String) :
    (calls.foldl perform h).components.get? name =
      (lastReport calls name).or (h.components.get? name) := by
  induction calls generalizing h with
  | nil => rfl
  | cons call rest ih =>
    rw [List.foldl_cons, ih, components_perform, lastReport, lastReport, reports, reports,
      List.filterMap_cons]
    cases call.report? with
    | none => rfl
    | some entry =>
      rw [Option.elim_some, Dictionary.get?_insert, lastValue_cons, Option.or_assoc]
      by_cases hname : name = entry.1 <;> simp [hname]

lemma ready_foldl_perform (calls : List Call) (h : Health) :
    (calls.foldl perform h).ready = (calls.filterMap Call.ready?).getLast?.getD h.ready := by
  induction calls generalizing h with
  | nil => rfl
  | cons call rest ih =>
    rw [List.foldl_cons, ih, ready_perform, List.filterMap_cons]
    cases call.ready? with
    | none => rfl
    | some ready =>
      cases hlast : (rest.filterMap Call.ready?).getLast? <;> simp [List.getLast?_cons, hlast]

section Run

variable {calls other : List Call} {name : String} {r : ComponentHealth}

lemma mem_entries_run :
    (name, r) ∈ (run calls).components.entries ↔ lastReport calls name = some r := by
  rw [Dictionary.mem_entries_iff, run, get?_foldl_perform, Dictionary.get?_empty, Option.or_none]

lemma ready_run (calls : List Call) : (run calls).ready = lastReady calls :=
  ready_foldl_perform calls {}

/-- Which report stands depends only on the reports on the same component. -/
lemma lastReport_congr (h : ∀ name, reportsOn other name = reportsOn calls name) :
    lastReport other = lastReport calls := by
  funext name
  rw [lastReport, lastReport, ← lastValue_filter (reports other),
    ← lastValue_filter (reports calls)]
  exact congrArg (lastValue · name) (h name)

/-! ### The status as a whole -/

/-- The worst status among the reports that stand, or healthy if there are none. -/
structure IsOverall (last : String → Option ComponentHealth) (s : Status) : Prop where
  bound : ∀ name r, last name = some r → r.status.rank ≤ s.rank
  attained : s = .healthy ∨ ∃ name r, last name = some r ∧ r.status = s

lemma IsOverall.unique {last : String → Option ComponentHealth} {s t : Status}
    (hs : IsOverall last s) (ht : IsOverall last t) : s = t := by
  have hle : ∀ {s t : Status}, IsOverall last s → IsOverall last t → s.rank ≤ t.rank := by
    intro s t hs ht
    rcases hs.attained with rfl | ⟨name, r, hr, rfl⟩
    · exact Nat.zero_le _
    · exact ht.bound name r hr
  exact Status.rank_injective (Nat.le_antisymm (hle hs ht) (hle ht hs))

lemma isOverall_run (calls : List Call) :
    IsOverall (lastReport calls) (run calls).liveness.status := by
  have hmem : ∀ s, s ∈ (run calls).components.values.map (·.status) ↔
      ∃ name r, lastReport calls name = some r ∧ r.status = s := by
    intro s
    simp [Dictionary.values, ← mem_entries_run]
  obtain ⟨hattained, -, hbound⟩ :=
    Status.foldl_worse ((run calls).components.values.map (·.status)) .healthy
  exact ⟨fun name r hr => hbound _ ((hmem _).mpr ⟨name, r, hr, rfl⟩),
    hattained.imp_right (hmem _).mp⟩

/-- No status is worse than unhealthy, so the whole is unhealthy just if one of its
components is. -/
lemma IsOverall.eq_unhealthy_iff {last : String → Option ComponentHealth} {s : Status}
    (h : IsOverall last s) :
    s = .unhealthy ↔ ∃ name r, last name = some r ∧ r.status = .unhealthy := by
  constructor
  · rintro rfl
    exact h.attained.resolve_left (by decide)
  · rintro ⟨name, r, hr, hstatus⟩
    have hle := h.bound name r hr
    rw [hstatus] at hle
    cases s with
    | unhealthy => rfl
    | _ => exact absurd hle (by decide)

/-! ### Readiness -/

lemma mem_unhealthyNames_run :
    name ∈ (run calls).unhealthyNames ↔
      ∃ r, lastReport calls name = some r ∧ r.status = .unhealthy := by
  simp [unhealthyNames, Dictionary.sorted, Status.isOperational, mem_entries_run]

/-- The unhealthy components are listed in the order of their bytes, each once. -/
lemma pairwise_unhealthyNames (h : Health) :
    h.unhealthyNames.Pairwise fun a b => Utf8.encode a < Utf8.encode b := by
  have hnodup : h.unhealthyNames.Nodup := by
    rw [unhealthyNames, Dictionary.sorted, (List.mergeSort_perm _ _).nodup_iff]
    exact h.components.nodup.sublist (List.filter_sublist.map _)
  have hsorted : h.unhealthyNames.Pairwise (· ≤ ·) := by
    have hpairwise := @List.pairwise_mergeSort _ (fun a b : String => decide (a ≤ b))
      (by simpa using fun a b c => le_trans)
      (by simpa using le_total)
      ((h.components.entries.filter fun entry => !entry.2.status.isOperational).map (·.1))
    exact hpairwise.imp of_decide_eq_true
  exact (hsorted.and hnodup).imp fun hlt =>
    Utf8.encode_lt_encode_iff.mpr (lt_of_le_of_ne hlt.1 hlt.2)

lemma unhealthyNames_run_eq_nil_iff :
    (run calls).unhealthyNames = [] ↔ (run calls).liveness.status ≠ .unhealthy := by
  rw [List.eq_nil_iff_forall_not_mem, ne_eq, (isOverall_run calls).eq_unhealthy_iff, not_exists]
  simp only [mem_unhealthyNames_run]

lemma readiness_of_ready {h : Health} (hready : h.ready = true) (hnames : h.unhealthyNames = []) :
    h.readiness = ⟨true, none⟩ := by
  rw [readiness, hready, hnames]
  rfl

lemma readiness_of_unhealthy {h : Health} (hready : h.ready = true)
    (hnames : h.unhealthyNames ≠ []) :
    h.readiness =
      ⟨false, some ("Unhealthy components: " ++ String.intercalate ", " h.unhealthyNames)⟩ := by
  rw [readiness, hready]
  generalize h.unhealthyNames = names at hnames ⊢
  cases names with
  | nil => exact absurd rfl hnames
  | cons name rest => rfl

/-- A service is ready just if it has been declared so and its status is not unhealthy. -/
lemma ready_run_iff :
    (run calls).readiness.ready = true ↔
      lastReady calls = true ∧ (run calls).liveness.status ≠ .unhealthy := by
  rw [← unhealthyNames_run_eq_nil_iff, ← ready_run]
  by_cases hready : (run calls).ready = true
  · by_cases hnames : (run calls).unhealthyNames = []
    · simp [readiness_of_ready, hready, hnames]
    · simp [readiness_of_unhealthy, hready, hnames]
  · simp [readiness, hready]

/-- The components that are unhealthy by their last reports, each once, in the order of
their bytes. -/
structure ListsUnhealthy (calls : List Call) (names : List String) : Prop where
  ascending : names.Pairwise fun a b => Utf8.encode a < Utf8.encode b
  mem_iff : ∀ name, name ∈ names ↔ ∃ r, lastReport calls name = some r ∧ r.status = .unhealthy

/-- What is not ready although it was declared so gives its unhealthy components as the reason. -/
lemma reason_run (hready : lastReady calls = true) (h : (run calls).readiness.ready = false) :
    ∃ names, ListsUnhealthy calls names ∧
      (run calls).readiness.reason =
        some ("Unhealthy components: " ++ String.intercalate ", " names) := by
  have hnames : (run calls).unhealthyNames ≠ [] := fun hnil => by
    rw [readiness_of_ready ((ready_run calls).trans hready) hnil] at h
    cases h
  refine ⟨_, ⟨pairwise_unhealthyNames _, fun name => mem_unhealthyNames_run⟩, ?_⟩
  rw [readiness_of_unhealthy ((ready_run calls).trans hready) hnames]

end Run

end ClusterCost.Health
