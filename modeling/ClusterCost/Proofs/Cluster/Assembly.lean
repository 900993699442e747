import ClusterCost.Proofs.Cluster.Run
import Mathlib.Data.List.Induction

/-!
# What a response makes of the snapshot

A row counts if it carries an id and a name. Of the rows that name one cluster the last makes its
record (`info?_ofRows`), and each row that does not count is skipped. The record of the local
identity comes in only if no row names the own cluster (`loaded_assemble`), and as long as the local
identity is that of the own cluster it displaces nothing.
-/

namespace ClusterCost

/-! ### Rows -/

namespace Series

/-- The row carries the labels that a record needs. -/
def isComplete (row : Series) : Bool :=
  (row.labels.get? "id").isSome && (row.labels.get? "name").isSome

/-- The row is complete, and this is the id that it gives. -/
def names (row : Series) (id : String) : Bool :=
  row.labels.get? "id" == some id && (row.labels.get? "name").isSome

/-- The text of a label, empty if the row does not carry it. -/
def text (row : Series) (label : String) : String := (row.labels.get? label).getD ""

/-- The record that a complete row makes. -/
def record (row : Series) : ClusterInfo :=
  ⟨row.text "id", row.text "name", row.text "clusterprofile", row.text "provider",
   row.text "provisioner"⟩

/-- A complete row names one cluster. -/
lemma names_iff {row : Series} (h : row.isComplete = true) (id : String) :
    row.names id = true ↔ row.record.id = id := by
  rw [isComplete, Bool.and_eq_true] at h
  obtain ⟨value, hid⟩ := Option.isSome_iff_exists.mp h.1
  simp [names, record, text, hid, h.2]

lemma not_names {row : Series} (h : row.isComplete = false) (id : String) :
    row.names id = false := by
  rw [isComplete, Bool.and_eq_false_iff] at h
  rcases h with h | h
  · rw [Option.isSome_eq_false_iff, Option.isNone_iff_eq_none] at h
    simp [names, h]
  · simp [names, h]

end Series

namespace Snapshot

/-! ### Records of rows -/

lemma infoOfRow_complete {row : Series} (h : row.isComplete = true) :
    infoOfRow row = .ok row.record := by
  rw [Series.isComplete, Bool.and_eq_true] at h
  obtain ⟨id, hid⟩ := Option.isSome_iff_exists.mp h.1
  obtain ⟨name, hname⟩ := Option.isSome_iff_exists.mp h.2
  simp only [infoOfRow, Series.label, Series.record, Series.text, hid, hname]
  rfl

lemma infoOfRow_incomplete {row : Series} (h : row.isComplete = false) :
    ∃ e, infoOfRow row = .error e := by
  rw [Series.isComplete, Bool.and_eq_false_iff, Option.isSome_eq_false_iff,
    Option.isSome_eq_false_iff] at h
  simp only [Option.isNone_iff_eq_none] at h
  cases hid : row.labels.get? "id" with
  | none =>
    refine ⟨.missingLabel "id", ?_⟩
    simp only [infoOfRow, Series.label, hid]
    rfl
  | some id =>
    have hname : row.labels.get? "name" = none := h.resolve_left (by simp [hid])
    refine ⟨.missingLabel "name", ?_⟩
    simp only [infoOfRow, Series.label, hid, hname]
    rfl

/-- The record that the last row naming a cluster makes, if there is such a row. -/
def lastRecord? (rows : List Series) (id : String) : Option ClusterInfo :=
  (rows.findRev? (·.names id)).map Series.record

lemma isSome_lastRecord? (rows : List Series) (id : String) :
    (lastRecord? rows id).isSome = true ↔ ∃ row ∈ rows, row.names id = true := by
  rw [lastRecord?, Option.isSome_map, List.findRev?_eq_find?_reverse, List.find?_isSome]
  simp only [List.mem_reverse]

lemma lastRecord?_append (rows : List Series) (row : Series) (id : String) :
    lastRecord? (rows ++ [row]) id =
      if row.names id then some row.record else lastRecord? rows id := by
  rw [lastRecord?, lastRecord?, List.findRev?_eq_find?_reverse, List.findRev?_eq_find?_reverse,
    List.reverse_append, List.reverse_singleton, List.singleton_append, List.find?_cons]
  cases row.names id <;> rfl

/-! ### Snapshots of rows -/

section Rows

variable {rows : List Series} {row : Series}

lemma mem_ids {s : Snapshot} {id : String} : id ∈ s.ids ↔ (s.info? id).isSome = true :=
  Dictionary.mem_keys

lemma info?_insert (s : Snapshot) (info : ClusterInfo) (id : String) :
    (s.insert info).info? id = if id = info.id then some info else s.info? id :=
  Dictionary.get?_insert s.clusters info.id id info

lemma ofRows_append_complete (h : row.isComplete = true) (rows : List Series) :
    ofRows (rows ++ [row]) = ((ofRows rows).1.insert row.record, (ofRows rows).2) := by
  rw [ofRows, List.foldl_append, List.foldl_cons, List.foldl_nil, infoOfRow_complete h]
  rfl

lemma ofRows_append_incomplete (h : row.isComplete = false) (rows : List Series) :
    ∃ e, ofRows (rows ++ [row]) = ((ofRows rows).1, (ofRows rows).2 ++ [e]) := by
  obtain ⟨e, he⟩ := infoOfRow_incomplete h
  refine ⟨e, ?_⟩
  rw [ofRows, List.foldl_append, List.foldl_cons, List.foldl_nil, he]
  rfl

/-- Of the rows that name a cluster the last one counts. -/
lemma info?_ofRows (rows : List Series) (id : String) :
    (ofRows rows).1.info? id = lastRecord? rows id := by
  -- the rows are taken from the front, so the induction is on the last of them
  induction rows using List.reverseRecOn with
  | nil => rfl
  | append_singleton rows row ih =>
    rw [lastRecord?_append]
    cases h : row.isComplete with
    | false =>
      obtain ⟨e, he⟩ := ofRows_append_incomplete h rows
      rw [he, ih, Series.not_names h]
      rfl
    | true =>
      rw [ofRows_append_complete h, info?_insert, ih]
      by_cases hid : row.record.id = id
      · rw [if_pos hid.symm, if_pos ((Series.names_iff h id).mpr hid)]
      · rw [if_neg (Ne.symm hid), if_neg (mt (Series.names_iff h id).mp hid)]

/-- The rows that are not complete are skipped, one by one. -/
lemma length_skipped (rows : List Series) :
    (ofRows rows).2.length = rows.countP (!·.isComplete) := by
  induction rows using List.reverseRecOn with
  | nil => rfl
  | append_singleton rows row ih =>
    rw [List.countP_append, List.countP_singleton, ← ih]
    cases h : row.isComplete with
    | false =>
      obtain ⟨e, he⟩ := ofRows_append_incomplete h rows
      rw [he, List.length_append]
      rfl
    | true =>
      rw [ofRows_append_complete h]
      rfl

end Rows

/-! ### Assembling -/

section Assembling

variable {ownId : String} {rows : List Series} {identity : Dictionary String}

/-- The record of a local identity with this id and name. -/
def localRecord (identity : Dictionary String) (id name : String) : ClusterInfo :=
  ⟨id, name, (identity.get? "clusterProfile").getD "", (identity.get? "provider").getD "",
   (identity.get? "provisioner").getD ""⟩

/-- The snapshot is what the rows make of it and, unless one of them names the own
cluster, the local identity. -/
structure Loaded (ownId : String) (rows : List Series) (identity : Dictionary String)
    (s : Snapshot) : Prop where
  keyed : ∀ entry ∈ s.clusters.entries, entry.2.id = entry.1
  fromRows :
    ((∃ row ∈ rows, row.names ownId = true) ∨ identity.get? "id" = none ∨
     identity.get? "name" = none) →
    ∀ id, (id ∈ s.ids ↔ ∃ row ∈ rows, row.names id = true) ∧ s.info? id = lastRecord? rows id
  withLocal : ∀ localId name, (¬ ∃ row ∈ rows, row.names ownId = true) →
    identity.get? "id" = some localId →
    identity.get? "name" = some name →
    ∀ id, (id ∈ s.ids ↔ id = localId ∨ ∃ row ∈ rows, row.names id = true) ∧
      s.info? id =
        if id = localId then some (localRecord identity localId name) else lastRecord? rows id
  /-- A local identity of the own cluster displaces no row. -/
  remote : identity.get? "id" = some ownId →
    ∀ id, (∃ row ∈ rows, row.names id = true) → id ∈ s.ids ∧ s.info? id = lastRecord? rows id
  own : identity.get? "id" = some ownId →
    (ownId ∈ s.ids ↔ (∃ row ∈ rows, row.names ownId = true) ∨ (identity.get? "name").isSome = true)

lemma contains_ofRows (rows : List Series) (id : String) :
    (ofRows rows).1.clusters.contains id = true ↔ ∃ row ∈ rows, row.names id = true := by
  rw [← Dictionary.isSome_get?, ← isSome_lastRecord?, ← info?_ofRows]
  rfl

lemma assemble_named (h : ∃ row ∈ rows, row.names ownId = true) (identity : Dictionary String) :
    assemble ownId rows identity = ⟨(ofRows rows).1, (ofRows rows).2, none⟩ := by
  rw [assemble]
  exact if_pos ((contains_ofRows rows ownId).mpr h)

lemma assemble_unnamed (h : ¬ ∃ row ∈ rows, row.names ownId = true) (identity : Dictionary String) :
    assemble ownId rows identity =
      match ClusterInfo.ofIdentity identity with
      | .ok info => ⟨(ofRows rows).1.insert info, (ofRows rows).2, none⟩
      | .error e => ⟨(ofRows rows).1, (ofRows rows).2, some e⟩ := by
  rw [assemble]
  exact if_neg (mt (contains_ofRows rows ownId).mp h)

/-- Each row that is not complete is skipped, whatever becomes of the own cluster. -/
lemma skipped_assemble (ownId : String) (rows : List Series) (identity : Dictionary String) :
    (assemble ownId rows identity).skipped.length = rows.countP (!·.isComplete) := by
  rw [← length_skipped]
  by_cases h : ∃ row ∈ rows, row.names ownId = true
  · rw [assemble_named h]
  · rw [assemble_unnamed h]
    split <;> rfl

lemma ofIdentity_named {id name : String} (hid : identity.get? "id" = some id)
    (hname : identity.get? "name" = some name) :
    ClusterInfo.ofIdentity identity = .ok (localRecord identity id name) := by
  rw [ClusterInfo.ofIdentity, hid, hname]
  rfl

lemma ofIdentity_lacking (h : identity.get? "id" = none ∨ identity.get? "name" = none) :
    ∃ e, ClusterInfo.ofIdentity identity = .error e := by
  rw [ClusterInfo.ofIdentity]
  rcases h with h | h
  · exact ⟨.missingId, by rw [h]⟩
  · cases hid : identity.get? "id" with
    | none => exact ⟨.missingId, rfl⟩
    | some id => exact ⟨.missingName, by rw [h]⟩

/-- A row names the own cluster, or the local identity makes no record: the rows alone
make the snapshot. -/
lemma assemble_fromRows
    (h : (∃ row ∈ rows, row.names ownId = true) ∨ identity.get? "id" = none ∨
      identity.get? "name" = none) :
    (assemble ownId rows identity).snapshot = (ofRows rows).1 := by
  by_cases hown : ∃ row ∈ rows, row.names ownId = true
  · rw [assemble_named hown]
  · obtain ⟨e, he⟩ := ofIdentity_lacking (h.resolve_left hown)
    rw [assemble_unnamed hown, he]

lemma assemble_withLocal {id name : String} (hown : ¬ ∃ row ∈ rows, row.names ownId = true)
    (hid : identity.get? "id" = some id) (hname : identity.get? "name" = some name) :
    (assemble ownId rows identity).snapshot =
      (ofRows rows).1.insert (localRecord identity id name) := by
  rw [assemble_unnamed hown, ofIdentity_named hid hname]

lemma fromRows_assemble (ownId : String) (rows : List Series) (identity : Dictionary String)
    (h : (∃ row ∈ rows, row.names ownId = true) ∨ identity.get? "id" = none ∨
       identity.get? "name" = none)
    (id : String) :
    (id ∈ (assemble ownId rows identity).snapshot.ids ↔ ∃ row ∈ rows, row.names id = true) ∧
      (assemble ownId rows identity).snapshot.info? id = lastRecord? rows id := by
  have hinfo : (assemble ownId rows identity).snapshot.info? id = lastRecord? rows id := by
    rw [assemble_fromRows h, info?_ofRows]
  refine ⟨?_, hinfo⟩
  rw [mem_ids, hinfo, isSome_lastRecord?]

lemma withLocal_assemble {localId name : String} (hown : ¬ ∃ row ∈ rows, row.names ownId = true)
    (hid : identity.get? "id" = some localId) (hname : identity.get? "name" = some name)
    (id : String) :
    (id ∈ (assemble ownId rows identity).snapshot.ids ↔
       id = localId ∨ ∃ row ∈ rows, row.names id = true) ∧
      (assemble ownId rows identity).snapshot.info? id =
        if id = localId then some (localRecord identity localId name) else lastRecord? rows id := by
  have hinfo : (assemble ownId rows identity).snapshot.info? id =
      if id = localId then some (localRecord identity localId name) else lastRecord? rows id := by
    rw [assemble_withLocal hown hid hname, info?_insert, info?_ofRows]
    rfl
  refine ⟨?_, hinfo⟩
  rw [mem_ids, hinfo, ← isSome_lastRecord?]
  by_cases h : id = localId <;> simp [h]

lemma loaded_assemble (ownId : String) (rows : List Series) (identity : Dictionary String) :
    Loaded ownId rows identity (assemble ownId rows identity).snapshot where
  keyed := (assemble ownId rows identity).snapshot.keyed
  fromRows := fromRows_assemble ownId rows identity
  withLocal := fun localId name hown hid hname => withLocal_assemble hown hid hname
  remote := by
    intro hid id hrow
    by_cases hown : ∃ row ∈ rows, row.names ownId = true
    · obtain ⟨hids, hinfo⟩ := fromRows_assemble ownId rows identity (.inl hown) id
      exact ⟨hids.mpr hrow, hinfo⟩
    · cases hname : identity.get? "name" with
      | none =>
        obtain ⟨hids, hinfo⟩ := fromRows_assemble ownId rows identity (.inr (.inr hname)) id
        exact ⟨hids.mpr hrow, hinfo⟩
      | some name =>
        obtain ⟨hids, hinfo⟩ := withLocal_assemble hown hid hname id
        -- the row is of another cluster, since none names the own one
        have hother : id ≠ ownId := by
          rintro rfl
          exact hown hrow
        rw [if_neg hother] at hinfo
        exact ⟨hids.mpr (.inr hrow), hinfo⟩
  own := by
    intro hid
    by_cases hown : ∃ row ∈ rows, row.names ownId = true
    · obtain ⟨hids, -⟩ := fromRows_assemble ownId rows identity (.inl hown) ownId
      exact ⟨fun _ => .inl hown, fun _ => hids.mpr hown⟩
    · cases hname : identity.get? "name" with
      | none =>
        obtain ⟨hids, -⟩ := fromRows_assemble ownId rows identity (.inr (.inr hname)) ownId
        simp [hids]
      | some name =>
        obtain ⟨hids, -⟩ := withLocal_assemble hown hid hname ownId
        simp [hids]

end Assembling

end Snapshot

end ClusterCost
