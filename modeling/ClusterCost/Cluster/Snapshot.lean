import ClusterCost.Cluster.Info
import ClusterCost.Query.Series

/-!
# Snapshots of the known clusters

A snapshot has one record for each known cluster, under the cluster's id. `Snapshot.assemble`
makes a snapshot from the rows of a query's answer; the own cluster is added from its local
identity if no row names it.
-/

namespace ClusterCost

/-- Records of clusters, each under its id. -/
structure Snapshot where
  clusters : Dictionary ClusterInfo
  keyed : ∀ entry ∈ clusters.entries, entry.2.id = entry.1

namespace Snapshot

def empty : Snapshot := ⟨.empty, by simp [Dictionary.empty]⟩

instance : Inhabited Snapshot := ⟨empty⟩

/-- Put a record under its id, in place of the one that is there. -/
def insert (s : Snapshot) (info : ClusterInfo) : Snapshot where
  clusters := s.clusters.insert info.id info
  keyed := by
    intro entry h
    by_cases hc : s.clusters.contains info.id
    · simp only [Dictionary.insert, hc, dite_true, Dictionary.replace, List.mem_map] at h
      obtain ⟨old, hold, rfl⟩ := h
      by_cases hid : old.1 = info.id
      · simp [hid]
      · simpa [hid] using s.keyed old hold
    · simp only [Dictionary.insert, hc, Bool.false_eq_true, dite_false, List.mem_append,
        List.mem_singleton] at h
      rcases h with h | rfl
      · exact s.keyed entry h
      · rfl

/-! ### Reading -/

def ids (s : Snapshot) : List String := s.clusters.keys

def size (s : Snapshot) : Nat := s.clusters.size

def info? (s : Snapshot) (id : String) : Option ClusterInfo := s.clusters.get? id

/-- The name of a cluster, empty if it is unknown. -/
def name (s : Snapshot) (id : String) : String := (s.info? id).elim "" (·.name)

/-- The NameID of a cluster; of an unknown one its id. -/
def nameId (s : Snapshot) (id : String) : String := (s.info? id).elim id (·.nameId)

def toJson (s : Snapshot) : Json.Value := .object (s.clusters.map ClusterInfo.toJson).entries

/-! ### Assembling -/

/-- The name of the series that lists the clusters. -/
def seriesName : String := "kubecost_cluster_info"

def query (modifier : String) : String := seriesName ++ modifier

/-- The record that a row makes. It needs an id and a name. -/
def infoOfRow (row : Series) : Except QueryError ClusterInfo := do
  let id ← row.label "id"
  let name ← row.label "name"
  let optional (label : String) : String := (row.labels.get? label).getD ""
  pure ⟨id, name, optional "clusterprofile", optional "provider", optional "provisioner"⟩

/-- A snapshot with what was noticed when it was made. -/
structure Assembled where
  snapshot : Snapshot
  skipped : List QueryError
  withoutOwn : Option IdentityError

/-- The snapshot of the rows that make a record, and the errors of the others. -/
def ofRows (rows : List Series) : Snapshot × List QueryError :=
  rows.foldl (fun (s, skipped) row =>
    match infoOfRow row with
    | .ok info => (s.insert info, skipped)
    | .error e => (s, skipped ++ [e])) (empty, [])

def assemble (ownId : String) (rows : List Series) (identity : Dictionary String) : Assembled :=
  let (s, skipped) := ofRows rows
  if s.clusters.contains ownId then ⟨s, skipped, none⟩
  else
    match ClusterInfo.ofIdentity identity with
    | .ok info => ⟨s.insert info, skipped, none⟩
    | .error e => ⟨s, skipped, some e⟩

end Snapshot

end ClusterCost
