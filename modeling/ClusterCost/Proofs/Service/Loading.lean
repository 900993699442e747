import ClusterCost.Proofs.Cluster.Assembly
import ClusterCost.Proofs.Service.Wiring

/-!
# The snapshot that a refresh stores

Whatever rows the backend answers with, the snapshot afterwards is the one that they make, and the
rows left out of it have been counted (`loaded_of_answer`). The map of a launched service takes its
local identity from the provider, which gives it the own cluster's id, so there no row of another
cluster is ever displaced.
-/

namespace ClusterCost

namespace Refresher

/-! ### One refresher -/

/-- A report of a row that was skipped. -/
def skips : Report → Bool
  | .skippedRow _ => true
  | _ => false

lemma rowsSkipped_note (metrics : Metrics) (report : Report) :
    (metrics.note report).rowsSkipped = metrics.rowsSkipped + if skips report then 1 else 0 := by
  cases report <;> rfl

lemma rowsSkipped_notes (reports : List Report) (metrics : Metrics) :
    (reports.foldl Metrics.note metrics).rowsSkipped =
      metrics.rowsSkipped + reports.countP skips := by
  induction reports generalizing metrics with
  | nil => rfl
  | cons report rest ih =>
    rw [List.foldl_cons, ih, rowsSkipped_note, List.countP_cons]
    omega

lemma countP_skips_load (m : Refresher) (elapsed : Nat) (rows : List Series)
    (identity : Dictionary String) :
    (m.load elapsed rows identity).2.countP skips = rows.countP (!·.isComplete) := by
  rw [← Snapshot.skipped_assemble m.settings.ownId rows identity, load]
  generalize Snapshot.assemble m.settings.ownId rows identity = made
  have hskipped : (made.skipped.map Report.skippedRow).countP skips = made.skipped.length := by
    rw [List.countP_map]
    exact List.countP_eq_length.mpr fun e _ => rfl
  have hrest : (made.withoutOwn.toList.map (Report.withoutOwn m.settings.ownId)).countP skips =
      0 := by
    rw [List.countP_map]
    exact List.countP_eq_zero.mpr fun e _ => Bool.false_ne_true
  simp [List.countP_append, hskipped, hrest, skips]

/-- A refresh that asks its query takes any answer. -/
lemma step_answer {m : Refresher} {w : Worker} {job : Job} (hjob : m.job? w = some job)
    (hasking : job.phase = .asking) (now : Nat) (outcome : Except QueryError (List Series))
    (identity : Dictionary String) :
    m.step now (.answer w outcome identity) = some (m.answer now w job outcome identity) := by
  rw [step, hjob]
  exact if_pos hasking

/-- What an answer with rows leaves behind. -/
lemma loaded_step {m after : Refresher} {now : Nat} {w : Worker} {rows : List Series}
    {identity : Dictionary String}
    {reports : List Report} (h : m.step now (.answer w (.ok rows) identity) = some (after, reports))
    (metrics : Metrics) :
    Snapshot.Loaded m.settings.ownId rows identity after.snapshot ∧
      (reports.foldl Metrics.note metrics).rowsSkipped =
        metrics.rowsSkipped + rows.countP (!·.isComplete) := by
  cases move_of_step h with
  | responded w job rows identity hjob hasking =>
    rw [snapshot_finish, rowsSkipped_notes, countP_skips_load]
    exact ⟨Snapshot.loaded_assemble m.settings.ownId rows identity, rfl⟩

end Refresher

namespace Service

open Refresher (Taken)

/-! ### The map of a launched service -/

section Serving

variable {settings : Settings} {files : Files} {declared : Bool} {taken : List Taken} {s : Service}

lemma metrics_notes (s : Service) {m : ClusterMap} (hm : m.inMetrics = true)
    (reports : List Report) :
    (reports.foldl (fun s report => s.note m report) s).metrics =
      reports.foldl Metrics.note s.metrics := by
  induction reports generalizing s with
  | nil => rfl
  | cons report rest ih =>
    have hnote : (s.note m report).metrics = s.metrics.note report := by
      rw [note, measure, if_pos hm]
      split_ifs <;> rfl
    rw [List.foldl_cons, List.foldl_cons, ih, hnote]

lemma id_clusterInfo (p : Provider) : p.clusterInfo.get? "id" = some p.clusterId := by
  rw [Provider.clusterInfo]
  split_ifs <;> simp [Dictionary.ofList, Dictionary.get?_insert]

/-- The provider has a name for its cluster unless the card's one is empty. -/
lemma name_clusterInfo (p : Provider) :
    (p.clusterInfo.get? "name").isSome = true ↔ p.card.text .clusterName ≠ "" := by
  rw [Provider.clusterInfo]
  by_cases h : p.card.text .clusterName = ""
  · simp [Dictionary.ofList, Dictionary.get?_insert, h]
  · simp [Dictionary.ofList, Dictionary.get?_insert, h]

/-- Rows have been answered to the map of a service: the snapshot that it serves afterwards, and the
rows that were skipped. -/
structure Stored (ownId : String) (rows : List Series) (s after : Service)
    (identity : Dictionary String) : Prop where
  loaded : Snapshot.Loaded ownId rows identity after.snapshot
  skipped : after.metrics.rowsSkipped = s.metrics.rowsSkipped + rows.countP (!·.isComplete)
  /-- The local identity is that of the own cluster. -/
  id : identity.get? "id" = some ownId
  /-- It has a name if and only if the card gives the cluster one. -/
  name : (identity.get? "name").isSome = true ↔ s.provider.card.text .clusterName ≠ ""

lemma stored_stepMap (serving : Serving settings files declared taken s) {map : ClusterMap}
    {w : Worker} {job : Job} (hmap : s.map = some map) (hjob : map.refresher.job? w = some job)
    (hasking : job.phase = .asking) (rows : List Series) :
    Stored settings.clusterId rows s (s.stepMap .current (.answer w (.ok rows) (s.identityOf map)))
      (s.identityOf map) := by
  have wired := wired_of_serving serving
  obtain ⟨map', hmap', hidentity, hmetrics, hown⟩ := wired.map
  obtain rfl : map' = map := Option.some.inj (hmap'.symm.trans hmap)
  have hprovider : s.identityOf map' = s.provider.clusterInfo := by rw [identityOf, hidentity]
  have hstep := Refresher.step_answer hjob hasking s.now (.ok rows) (s.identityOf map')
  obtain ⟨hloaded, hskipped⟩ := Refresher.loaded_step hstep s.metrics
  constructor
  · rw [← hown, stepMap_eq .current hmap hstep, snapshot, foldl_note map_note]
    exact hloaded
  · rw [stepMap_eq .current hmap hstep, metrics_notes]
    · exact hskipped
    · exact hmetrics
  · rw [hprovider, id_clusterInfo, wired.clusterId]
  · rw [hprovider, name_clusterInfo]

/-- A refresh that asks its query takes any rows, and then the snapshot is the one that
they make with the own id and the local identity of that time, and as many rows have been
counted as skipped as lack an id or a name. In a launched service the local identity is
always that of the own cluster. -/
theorem loaded_of_answer :
    (∀ {m : Refresher} {w : Worker} {job : Job}, m.job? w = some job → job.phase = .asking →
      ∀ (now : Nat) (rows : List Series) (identity : Dictionary String), ∃ after reports,
        m.step now (.answer w (.ok rows) identity) = some (after, reports) ∧
        Snapshot.Loaded m.settings.ownId rows identity after.snapshot ∧
        ∀ metrics : Metrics,
          (reports.foldl Metrics.note metrics).rowsSkipped =
            metrics.rowsSkipped + rows.countP (!·.isComplete)) ∧
    ∀ {settings : Settings} {files : Files} {declared : Bool} {taken : List Taken} {s : Service}
      {map : ClusterMap} {w : Worker} {job : Job},
      Serving settings files declared taken s → s.map = some map → map.refresher.job? w = some job →
        job.phase = .asking →
        ∀ rows : List Series,
          Stored settings.clusterId rows s
            (s.stepMap .current (.answer w (.ok rows) (s.identityOf map))) (s.identityOf map) := by
  constructor
  · intro m w job hjob hasking now rows identity
    have hstep := Refresher.step_answer hjob hasking now (.ok rows) identity
    exact ⟨_, _, hstep, (Refresher.loaded_step hstep {}).1,
      fun metrics => (Refresher.loaded_step hstep metrics).2⟩
  · intro settings files declared taken s map w job serving hmap hjob hasking rows
    exact stored_stepMap serving hmap hjob hasking rows

/-- Two rows name one cluster and another one names none. A local identity that takes the
id of that cluster, and not the one of the own cluster, displaces the rows; that of a
launched service joins them. -/
theorem loaded_of_answer_collision :
    let rows : List Series := [.ofLabels [("id", "a"), ("name", "first")], .ofLabels [("id", "b")],
      .ofLabels [("id", "a"), ("name", "last"), ("provider", "one")]]
    let identity : Dictionary String := .ofList [("id", "a"), ("name", "local")]
    let settings : Settings := .default .empty
    (∃ after reports,
      (Refresher.start { ownId := "own", interval := 1000, attempts := 1, delay := 10 } 0).step 5
        (.answer .loop (.ok rows) identity) = some (after, reports) ∧
      after.snapshot.info? "a" = some ⟨"a", "local", "", "", ""⟩ ∧
      (reports.foldl Metrics.note {}).rowsSkipped = 1) ∧
    ∃ s after, Serving settings (.empty "/") false [] s ∧
      Stored settings.clusterId rows s after s.provider.clusterInfo ∧
      after.snapshot.info? "a" = some ⟨"a", "last", "", "one", ""⟩ ∧
      settings.clusterId ∈ after.snapshot.ids := by
  intro rows identity settings
  obtain ⟨refreshed, served⟩ := loaded_of_answer
  constructor
  · let m : Refresher := .start { ownId := "own", interval := 1000, attempts := 1, delay := 10 } 0
    have asks : m.job? .loop = some { startedAt := 0 } := rfl
    obtain ⟨after, reports, answered, loaded, skipped⟩ := refreshed asks rfl 5 rows identity
    exact ⟨after, reports, answered,
      (loaded.withLocal "a" "local" (by decide +kernel) rfl rfl "a").2, skipped {}⟩
  · have launched := serving_default settings (.empty "/") 0 rfl rfl rfl
    have serving := launched.update (.map (.ofList [("clusterName", "home")]))
    have stored := @served _ _ _ _ _ _ .loop _ serving ((sameMaps_request _ _).map.trans rfl)
      rfl rfl rows
    refine ⟨_, _, serving, stored, ?_, ?_⟩
    · exact (stored.loaded.remote stored.id "a" (by decide +kernel)).2
    · exact (stored.loaded.own stored.id).mpr (.inr (stored.name.mpr (by decide +kernel)))

end Serving

end Service

end ClusterCost
