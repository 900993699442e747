import ClusterCost.Cluster.Snapshot
import Mathlib.Data.List.TakeWhile
import Mathlib.Tactic.Common

/-!
# Which NameIDs come back

A NameID is cut at its first slash. So a cluster comes back from its NameID exactly if its name has
no slash or, where there is no name, its id has none (`splitNameId_nameId`).
-/

namespace ClusterCost

/-! ### Cutting at the first slash -/

section Cut

variable {s id name : String}

/-- A text without a slash is an id alone; another is a name, which ends before the
first slash, and an id. -/
def CutsInto (s id name : String) : Prop :=
  '/' ∉ s.toList ∧ id = s ∧ name = "" ∨ '/' ∉ name.toList ∧ s = name ++ "/" ++ id

lemma splitNameId_whole (h : '/' ∉ s.toList) : splitNameId s = (s, "") := by
  have hdrop : s.toList.dropWhile (· != '/') = [] := by
    apply List.dropWhile_eq_nil_iff.mpr
    intro c hc
    simpa using ne_of_mem_of_not_mem hc h
  rw [splitNameId, hdrop]

lemma splitNameId_append (h : '/' ∉ name.toList) (id : String) :
    splitNameId (name ++ "/" ++ id) = (id, name) := by
  have hplain : ∀ c ∈ name.toList, (c != '/') = true := by
    intro c hc
    simpa using ne_of_mem_of_not_mem hc h
  have hlist : (name ++ "/" ++ id).toList = name.toList ++ '/' :: id.toList := by simp
  simp [splitNameId, hlist, List.takeWhile_append_of_pos hplain,
    List.dropWhile_append_of_pos hplain]

lemma CutsInto.splitNameId (h : CutsInto s id name) : splitNameId s = (id, name) := by
  rcases h with ⟨h, rfl, rfl⟩ | ⟨h, rfl⟩
  · exact splitNameId_whole h
  · exact splitNameId_append h id

lemma exists_cutsInto (s : String) : ∃ id name, CutsInto s id name := by
  by_cases h : '/' ∈ s.toList
  · obtain ⟨name, id, hs, hname⟩ := List.eq_append_cons_of_mem h
    refine ⟨.ofList id, .ofList name, .inr ⟨by simpa using hname, ?_⟩⟩
    apply String.toList_inj.mp
    simpa using hs
  · exact ⟨s, "", .inl ⟨h, rfl, rfl⟩⟩

/-- There is one cut of each text, and `splitNameId` makes it. -/
lemma splitNameId_eq_iff : splitNameId s = (id, name) ↔ CutsInto s id name := by
  refine ⟨fun h => ?_, CutsInto.splitNameId⟩
  obtain ⟨id', name', hcut⟩ := exists_cutsInto s
  cases h.symm.trans hcut.splitNameId
  exact hcut

end Cut

/-! ### Pairs and their NameIDs -/

lemma ne_slash_append (id : String) : id ≠ "/" ++ id := by
  intro h
  have hlength := congrArg String.length h
  simp at hlength

namespace ClusterInfo

variable {info : ClusterInfo}

lemma nameId_of_unnamed (h : info.name = "") : info.nameId = info.id := by simp [nameId, h]

lemma nameId_of_named (h : info.name ≠ "") : info.nameId = info.name ++ "/" ++ info.id := by
  simp [nameId, h]

end ClusterInfo

/-- A cluster with this id and this name is found again by the first slash of its NameID: the name
has no slash or, if it is empty, the id has none. -/
def CutsBack (id name : String) : Prop :=
  name ≠ "" ∧ '/' ∉ name.toList ∨ name = "" ∧ '/' ∉ id.toList

lemma cutsInto_nameId_iff (info : ClusterInfo) :
    CutsInto info.nameId info.id info.name ↔ CutsBack info.id info.name := by
  by_cases hname : info.name = ""
  · simp [CutsInto, CutsBack, ClusterInfo.nameId_of_unnamed hname, hname, ne_slash_append]
  · simp [CutsInto, CutsBack, ClusterInfo.nameId_of_named hname, hname]

/-- Only a text that begins with a slash is not the NameID of its own cut. -/
lemma nameId_eq_iff {s : String} {info : ClusterInfo} (h : CutsInto s info.id info.name) :
    info.nameId = s ↔ s.toList.head? ≠ some '/' := by
  by_cases hname : info.name = ""
  · rw [ClusterInfo.nameId_of_unnamed hname]
    rcases h with ⟨hs, rfl, -⟩ | ⟨-, rfl⟩
    · simp only [true_iff]
      intro hhead
      exact hs (List.mem_of_mem_head? hhead)
    · simp [hname, ne_slash_append]
  · rw [ClusterInfo.nameId_of_named hname]
    rcases h with ⟨-, -, hempty⟩ | ⟨hslash, rfl⟩
    · exact absurd hempty hname
    · simp only [true_iff]
      intro hhead
      apply hslash
      cases hcs : info.name.toList with
      | nil => exact absurd (String.toList_eq_nil_iff.mp hcs) hname
      | cons c cs =>
        obtain rfl : c = '/' := by simpa [hcs] using hhead
        exact List.mem_cons_self

/-! ### NameIDs of a snapshot -/

namespace Snapshot

lemma id_of_info? {s : Snapshot} {id : String} {info : ClusterInfo} (h : s.info? id = some info) :
    info.id = id := by
  obtain ⟨before, after, hentries, -⟩ := List.lookup_eq_some_iff.mp h
  exact s.keyed (id, info) (hentries ▸ List.mem_append_right _ List.mem_cons_self)

/-- The NameID of any id is that of a record with this id, which for an unknown one has no name. -/
lemma exists_nameId_eq (s : Snapshot) (id : String) :
    ∃ info : ClusterInfo, info.id = id ∧ info.name = s.name id ∧ s.nameId id = info.nameId := by
  cases h : s.info? id with
  | none =>
    exact ⟨⟨id, "", "", "", ""⟩, rfl, by simp [name, h], by simp [nameId, h, ClusterInfo.nameId]⟩
  | some info => exact ⟨info, id_of_info? h, by simp [name, h], by simp [nameId, h]⟩

lemma splitNameId_nameId_iff (s : Snapshot) (id : String) :
    splitNameId (s.nameId id) = (id, s.name id) ↔ CutsBack id (s.name id) := by
  obtain ⟨info, rfl, hname, hnameId⟩ := s.exists_nameId_eq id
  rw [hnameId, ← hname, splitNameId_eq_iff, cutsInto_nameId_iff]

end Snapshot

/-- The pair of an id and a name comes back from its NameID exactly if it cuts back, and a text is
the NameID of its own cut exactly if it does not begin with a slash. So in a snapshot, where each
record stands under its own id, clusters that cut back have different NameIDs, and an unknown id
counts as a cluster without a name. -/
theorem splitNameId_nameId :
    (∀ info : ClusterInfo, splitNameId info.nameId = (info.id, info.name) ↔
       CutsBack info.id info.name) ∧
    (∀ (s : String) (info : ClusterInfo), splitNameId s = (info.id, info.name) →
       (info.nameId = s ↔ s.toList.head? ≠ some '/')) ∧
    (∀ (s : Snapshot) (id : String), splitNameId (s.nameId id) = (id, s.name id) ↔
       CutsBack id (s.name id)) ∧
    ∀ (s : Snapshot) (id other : String), CutsBack id (s.name id) → CutsBack other (s.name other) →
      id ≠ other →
      s.nameId id ≠ s.nameId other := by
  refine ⟨fun info => splitNameId_eq_iff.trans (cutsInto_nameId_iff info),
    fun s info h => nameId_eq_iff (splitNameId_eq_iff.mp h), Snapshot.splitNameId_nameId_iff,
    fun s id other hid hother hne heq => hne ?_⟩
  have hback := (s.splitNameId_nameId_iff id).mpr hid
  have hback' := (s.splitNameId_nameId_iff other).mpr hother
  rw [heq, hback'] at hback
  exact (Prod.mk.inj hback).1.symm

/-- A slash in the id of a cluster does no harm if the cluster has a name. It also keeps apart the
clusters of a snapshot that have the same name. -/
theorem splitNameId_slash_in_id :
    let s := (Snapshot.empty.insert ⟨"a/b", "team", "", "", ""⟩).insert ⟨"b", "team", "", "", ""⟩
    splitNameId (ClusterInfo.nameId ⟨"a/b", "team", "", "", ""⟩) = ("a/b", "team") ∧
      splitNameId (ClusterInfo.nameId ⟨"a/b", "", "", "", ""⟩) ≠ ("a/b", "") ∧
      (⟨"b", "", "", "", ""⟩ : ClusterInfo).nameId ≠ "/b" ∧
      splitNameId (s.nameId "a/c") ≠ ("a/c", s.name "a/c") ∧
      s.nameId "a/b" ≠ s.nameId "b" := by
  intro s
  refine ⟨?_, ?_, ?_, ?_, ?_⟩
  · apply (splitNameId_nameId.1 _).mpr
    exact .inl ⟨by decide, by decide⟩
  · apply (splitNameId_nameId.1 _).not.mpr
    rintro (⟨h, -⟩ | ⟨-, h⟩)
    · exact h rfl
    · exact h (by decide)
  · apply (splitNameId_nameId.2.1 "/b" ⟨"b", "", "", "", ""⟩ rfl).not.mpr
    decide
  · apply (splitNameId_nameId.2.2.1 s "a/c").not.mpr
    rintro (⟨h, -⟩ | ⟨-, h⟩)
    · exact h rfl
    · exact h (by decide)
  · apply splitNameId_nameId.2.2.2 s "a/b" "b"
    · exact .inl ⟨by decide, by decide⟩
    · exact .inl ⟨by decide, by decide⟩
    · decide

end ClusterCost
