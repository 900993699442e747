import ClusterCost.Proofs.Service.Requests
import ClusterCost.Proofs.Shapes
import ClusterCost.Proofs.Url.Segment

/-!
# Clusters under their ids

Each cluster that the service lists is found under its own id, however this is spelled in the
path, and no other is (`Service.found_under_id`). A cluster that is not listed is not found,
and has its id for a NameID.
-/

namespace ClusterCost

open Json (Reader)

namespace Http

/-! ### Targets -/

/-- A request for what is under a target. -/
def Request.get (target : String) : Request := ⟨"GET", target, []⟩

/-- A target that starts with a slash is a path, if it has neither a query nor a fragment. -/
lemma Request.path_get {target : String} (hslash : target.toList.head? = some '/')
    (h : ∀ c ∈ target.toList, c ≠ '?' ∧ c ≠ '#') : (Request.get target).path = target := by
  have hown : (Request.get target).ownPart = target.toList := by
    simp [ownPart, get, hslash]
  have htake : target.toList.takeWhile (fun c => !(c == '?' || c == '#')) = target.toList := by
    rw [List.takeWhile_eq_self_iff]
    intro c hc
    obtain ⟨hquery, hfragment⟩ := h c hc
    simp [hquery, hfragment]
  rw [path, hown, htake, String.ofList_toList]

/-- A request for the path of a route is one for this route, if each segment has only characters
that may stand inside. -/
lemma Route.ofPath?_get {r : Route} (h : ∀ t ∈ r.segments, ∀ c ∈ t.toList, Percent.Inside c)
    (hid : r ≠ .cluster "") : ofPath? (Request.get r.path).path = some r := by
  have hpath : (Request.get r.path).path = r.path := by
    apply Request.path_get
    · rw [toList_path]
      cases r <;> rfl
    · intro c hc
      rw [toList_path, List.mem_flatMap] at hc
      obtain ⟨t, ht, hc⟩ := hc
      rcases List.mem_cons.mp hc with rfl | hc
      · decide
      · exact (h t ht c hc).2.2
  rw [hpath]
  apply ofPath?_path ?_ hid
  intro t ht hmem
  exact (h t ht '/' hmem).2.1 rfl

section Paths

variable {id segment : String}

lemma inside_clusters : ∀ c ∈ "clusters".toList, Percent.Inside c :=
  List.all_iff_forall_prop.mp (by decide)

lemma inside_nameid : ∀ c ∈ "nameid".toList, Percent.Inside c :=
  List.all_iff_forall_prop.mp (by decide)

lemma route_clusters : Route.ofPath? (Request.get "/clusters").path = some .clusters := by
  have hpath : Route.clusters.path = "/clusters" := by decide
  rw [← hpath]
  apply Route.ofPath?_get
  · simpa [Route.segments] using inside_clusters
  · simp

lemma SpellsId.route_cluster (h : SpellsId segment id) (hid : id ≠ "") :
    Route.ofPath? (Request.get ("/clusters/" ++ segment)).path = some (.cluster segment) := by
  have hpath : (Route.cluster segment).path = "/clusters/" ++ segment := by
    apply String.toList_injective
    simp [Route.toList_path, Route.segments]
  rw [← hpath]
  apply Route.ofPath?_get
  · simp only [Route.segments, List.forall_mem_cons]
    exact ⟨inside_clusters, h.inside, by simp⟩
  · simpa using h.ne_empty hid

lemma SpellsId.route_nameId (h : SpellsId segment id) :
    Route.ofPath? (Request.get ("/clusters/" ++ segment ++ "/nameid")).path =
      some (.nameId segment) := by
  have hpath : (Route.nameId segment).path = "/clusters/" ++ segment ++ "/nameid" := by
    apply String.toList_injective
    simp [Route.toList_path, Route.segments]
  rw [← hpath]
  apply Route.ofPath?_get
  · simp only [Route.segments, List.forall_mem_cons]
    exact ⟨inside_clusters, h.inside, inside_nameid, by simp⟩
  · simp

end Paths

/-! ### What answers show -/

/-- The answer is this value in JSON. -/
structure Response.Gives (a : Response) (status : Nat) (v : Json.Value) : Prop where
  status_eq : a.status = status
  contentType : a.contentType = some "application/json"
  text : Json.Text a.body v

/-- The answer is a list of clusters, each with its record under a key. -/
structure Response.Lists (a : Response) (entries : List (String × ClusterInfo)) : Prop where
  status : a.status = 200
  read : Json.readText (.members ClusterInfo.reader) a.body = .ok entries

/-- The answer is the record of a cluster. -/
structure Response.Shows (a : Response) (info : ClusterInfo) : Prop where
  status : a.status = 200
  read : Json.readText ClusterInfo.reader a.body = .ok info

lemma Response.Shows.unique {a : Response} {info other : ClusterInfo} (h : a.Shows info)
    (h' : a.Shows other) : info = other :=
  Except.ok.inj (h.read.symm.trans h'.read)

lemma Response.Lists.unique {a : Response} {entries other : List (String × ClusterInfo)}
    (h : a.Lists entries) (h' : a.Lists other) : entries = other :=
  Except.ok.inj (h.read.symm.trans h'.read)

/-- The answer is that there is no such cluster; its text has the id. -/
def Response.Misses (a : Response) (id : String) : Prop :=
  ∃ reason : String, a.Gives 404 (.object [("error", .text reason)]) ∧ id.toList <:+: reason.toList

lemma Response.Misses.not_shows {a : Response} {id : String} {info : ClusterInfo}
    (h : a.Misses id) : ¬ a.Shows info := by
  obtain ⟨reason, hgives, -⟩ := h
  intro hshows
  cases hgives.status_eq.symm.trans hshows.status

lemma Response.gives_json {status : Nat} {v : Json.Value} (h : v.NumberFree) :
    (Response.json status v).Gives status v :=
  ⟨rfl, rfl, Json.Value.text_compact h⟩

lemma Response.misses_error (id : String) :
    (Response.error 404 ("unknown cluster '" ++ id ++ "'")).Misses id := by
  refine ⟨"unknown cluster '" ++ id ++ "'", Response.gives_json ⟨trivial, trivial⟩, ?_⟩
  rw [String.toList_append, String.toList_append]
  exact List.infix_append _ _ _

lemma Response.shows_json (info : ClusterInfo) : (Response.json 200 info.toJson).Shows info :=
  ⟨rfl, (ClusterInfo.restores (.inr (by decide))).roundTrips.compact info trivial⟩

end Http

namespace Service

open Http (Request Response Route SpellsId)

section Answers

variable (s : Service) {id segment : String} {info : ClusterInfo}

/-- The clusters that are listed are those of the snapshot. -/
lemma lists_clusters : (s.respond (.get "/clusters")).1.Lists s.snapshot.clusters.entries := by
  have hrestores :=
    (ClusterInfo.restores (r := Json.Reading.whole.inner) (.inr (by decide))).members
    (.inr (by decide))
  rw [respond_read s rfl Http.route_clusters]
  exact ⟨rfl, hrestores.roundTrips.compact s.snapshot.clusters.entries fun _ _ => trivial⟩

lemma respond_known (h : SpellsId segment id) (hid : id ≠ "")
    (hinfo : s.snapshot.info? id = some info) :
    s.respond (.get ("/clusters/" ++ segment)) = (.json 200 info.toJson, s) := by
  rw [respond_read s rfl (h.route_cluster hid)]
  simp only [read, withId, h.decodeId?, hinfo]

lemma respond_unknown (h : SpellsId segment id) (hid : id ≠ "")
    (hinfo : s.snapshot.info? id = none) :
    s.respond (.get ("/clusters/" ++ segment)) =
      (.error 404 ("unknown cluster '" ++ id ++ "'"), s) := by
  rw [respond_read s rfl (h.route_cluster hid)]
  simp only [read, withId, h.decodeId?, hinfo]

lemma respond_nameId (h : SpellsId segment id) :
    s.respond (.get ("/clusters/" ++ segment ++ "/nameid")) =
      (.json 200 (.object [("nameId", .text (s.snapshot.nameId id))]), s) := by
  rw [respond_read s rfl h.route_nameId]
  simp only [read, withId, h.decodeId?]

/-- What is shown under an id is what is listed under it. -/
lemma shows_iff (h : SpellsId segment id) (hid : id ≠ "") :
    (s.respond (.get ("/clusters/" ++ segment))).1.Shows info ↔
      (id, info) ∈ s.snapshot.clusters.entries := by
  rw [Dictionary.mem_entries_iff]
  change _ ↔ s.snapshot.info? id = some info
  cases hinfo : s.snapshot.info? id with
  | some found =>
    rw [respond_known s h hid hinfo, Option.some.injEq]
    constructor
    · intro hshows
      exact (Response.shows_json found).unique hshows
    · rintro rfl
      exact Response.shows_json found
  | none =>
    rw [respond_unknown s h hid hinfo]
    constructor
    · intro hshows
      exact absurd hshows (Response.misses_error id).not_shows
    · intro hsome
      cases hsome

lemma misses_of_not_mem (h : SpellsId segment id) (hid : id ≠ "")
    (hmissing : ∀ info, (id, info) ∉ s.snapshot.clusters.entries) :
    (s.respond (.get ("/clusters/" ++ segment))).1.Misses id := by
  have hinfo : s.snapshot.info? id = none := by
    rw [Option.eq_none_iff_forall_ne_some]
    intro info hsome
    exact hmissing info (Dictionary.mem_entries_iff.mpr hsome)
  rw [respond_unknown s h hid hinfo]
  exact Response.misses_error id

end Answers

/-- What is answered about an id that is spelled in this way goes with the clusters that are listed:
its record is shown if it is listed, and the id is missed otherwise; its NameID is that of the
record, or the id. Nothing is changed. -/
structure AnswersFor (s : Service) (entries : List (String × ClusterInfo)) (id segment : String) :
    Prop where
  shows : ∀ info, (s.respond (.get ("/clusters/" ++ segment))).1.Shows info ↔ (id, info) ∈ entries
  misses : (∀ info, (id, info) ∉ entries) → (s.respond (.get ("/clusters/" ++ segment))).1.Misses id
  nameId : ∃ nameId,
    (s.respond (.get ("/clusters/" ++ segment ++ "/nameid"))).1.Gives 200
      (.object [("nameId", .text nameId)]) ∧
    (∀ info, (id, info) ∈ entries → nameId = info.nameId) ∧
    ((∀ info, (id, info) ∉ entries) → nameId = id)
  unchanged : (s.respond (.get ("/clusters/" ++ segment))).2 = s ∧
    (s.respond (.get ("/clusters/" ++ segment ++ "/nameid"))).2 = s

lemma answersFor (s : Service) {id segment : String} (h : SpellsId segment id) (hid : id ≠ "") :
    s.AnswersFor s.snapshot.clusters.entries id segment := by
  have hget : ∀ info, (id, info) ∈ s.snapshot.clusters.entries ↔ s.snapshot.info? id = some info :=
    fun info => Dictionary.mem_entries_iff
  refine ⟨fun info => s.shows_iff h hid, s.misses_of_not_mem h hid,
    ⟨s.snapshot.nameId id, ?_, ?_, ?_⟩, ?_, ?_⟩
  · rw [respond_nameId s h]
    exact Response.gives_json ⟨trivial, trivial⟩
  · intro info hinfo
    rw [Snapshot.nameId, (hget info).mp hinfo]
    rfl
  · intro hmissing
    have hinfo : s.snapshot.info? id = none := by
      rw [Option.eq_none_iff_forall_ne_some]
      intro info hsome
      exact hmissing info ((hget info).mpr hsome)
    rw [Snapshot.nameId, hinfo]
    rfl
  · rw [respond_read s rfl (h.route_cluster hid)]
  · rw [respond_nameId s h]

/-- The service lists clusters, each under the id of its record. Whatever an id is, and however it
is spelled in the path, the cluster under this id is shown if and only if it is listed, and with the
same record. No record is shown under two ids. -/
theorem found_under_id (s : Service) :
    ∃ entries, (s.respond (.get "/clusters")).1.Lists entries ∧ (entries.map (·.1)).Nodup ∧
    (∀ entry ∈ entries, entry.2.id = entry.1) ∧
    (∀ id, id ≠ "" →
       (∃ segment, SpellsId segment id) ∧
       ∀ segment, SpellsId segment id → s.AnswersFor entries id segment) ∧
    ∀ id segment other otherSegment info, id ≠ "" → other ≠ "" → id ≠ other → SpellsId segment id →
      SpellsId otherSegment other →
      (s.respond (.get ("/clusters/" ++ segment))).1.Shows info →
        ¬ (s.respond (.get ("/clusters/" ++ otherSegment))).1.Shows info := by
  refine ⟨s.snapshot.clusters.entries, s.lists_clusters, s.snapshot.clusters.nodup,
    s.snapshot.keyed, ?_, ?_⟩
  · intro id hid
    refine ⟨Http.exists_spellsId id, ?_⟩
    intro segment h
    exact s.answersFor h hid
  · intro id segment other otherSegment info hid hother hne h h' hshows hshows'
    have hkey := s.snapshot.keyed _ ((s.shows_iff h hid).mp hshows)
    have hkey' := s.snapshot.keyed _ ((s.shows_iff h' hother).mp hshows')
    exact hne (hkey.symm.trans hkey')

/-- An id with a letter outside ASCII, a slash and what looks like an escape, one that is a word of
the routes, and one that is not listed. -/
theorem found_under_id_escaped :
    let first : ClusterInfo := ⟨"é/%41", "n", "", "", ""⟩
    let second : ClusterInfo := ⟨"nameid", "", "", "", ""⟩
    let map : ClusterMap :=
      { refresher :=
          { settings := { ownId := "own", interval := 1000, attempts := 1, delay := 10 }
            snapshot := (Snapshot.empty.insert first).insert second
            loop := .starting }
        modifier := "", identity := .provider, inMetrics := true, inHealth := true }
    let s : Service :=
      { clusterId := "own", files := .empty "/", provider := ⟨"own", .inMemory .default, .empty⟩,
        map := some map }
    (s.respond (.get "/clusters/%c3%A9%2f%2541")).1.Shows first ∧
    ¬ (s.respond (.get "/clusters/nameid")).1.Shows first ∧
    (∃ nameId,
       (s.respond (.get "/clusters/nameid/nameid")).1.Gives 200
         (.object [("nameId", .text nameId)]) ∧
       nameId = "nameid") ∧
    (s.respond (.get "/clusters/A")).1.Misses "A" := by
  intro first second map s
  have hfirst : SpellsId "%c3%A9%2f%2541" "é/%41" := by
    have hbytes : Utf8.encode "é/%41" = [0xC3, 0xA9, 0x2F, 0x25, 0x34, 0x31] := by decide
    have hchars : "%c3%A9%2f%2541".toList =
        ['%', 'c', '3', '%', 'A', '9', '%', '2', 'f', '%', '2', '5', '4', '1'] := by decide
    rw [SpellsId, hbytes, hchars]
    have htail : Percent.Spells [0x34, 0x31] ['4', '1'] :=
      @Percent.spells_plain ['4', '1'] (List.all_iff_forall_prop.mp (by decide))
    have hmarks :
        Percent.Spells [0x2F, 0x25, 0x34, 0x31] ['%', '2', 'f', '%', '2', '5', '4', '1'] :=
      @Percent.Spells.escaped _ _ 2 15 _ _ (by decide) (by decide)
        (@Percent.Spells.escaped _ _ 2 5 _ _ (by decide) (by decide) htail)
    exact @Percent.Spells.escaped _ _ 12 3 _ _ (by decide) (by decide)
      (@Percent.Spells.escaped _ _ 10 9 _ _ (by decide) (by decide) hmarks)
  have hsecond : SpellsId "nameid" "nameid" :=
    Http.spellsId_self (List.all_iff_forall_prop.mp (by decide))
  have hthird : SpellsId "A" "A" := Http.spellsId_self (List.all_iff_forall_prop.mp (by decide))
  obtain ⟨entries, hlists, -, -, hanswers, hunique⟩ := found_under_id s
  have hsnapshot : s.snapshot.clusters.entries = [("é/%41", first), ("nameid", second)] := by rfl
  have hlisted : entries = [("é/%41", first), ("nameid", second)] :=
    (hlists.unique (lists_clusters s)).trans hsnapshot
  have hanswer := (hanswers "é/%41" (by decide)).2 _ hfirst
  have hword := (hanswers "nameid" (by decide)).2 _ hsecond
  have hmissing := (hanswers "A" (by decide)).2 _ hthird
  have hshows := (hanswer.shows first).mpr (by simp [hlisted])
  have hfirstPath : "/clusters/" ++ "%c3%A9%2f%2541" = "/clusters/%c3%A9%2f%2541" := by decide
  have hsecondPath : "/clusters/" ++ "nameid" = "/clusters/nameid" := by decide
  have hnameIdPath : "/clusters/" ++ "nameid" ++ "/nameid" = "/clusters/nameid/nameid" := by decide
  have hthirdPath : "/clusters/" ++ "A" = "/clusters/A" := by decide
  rw [← hfirstPath, ← hsecondPath, ← hnameIdPath, ← hthirdPath]
  refine ⟨hshows, ?_, ?_, ?_⟩
  · exact hunique "é/%41" _ "nameid" _ first (by decide) (by decide) (by decide) hfirst
      hsecond hshows
  · obtain ⟨nameId, hgives, hrecord, -⟩ := hword.nameId
    exact ⟨nameId, hgives, hrecord second (by simp [hlisted])⟩
  · exact hmissing.misses (by simp [hlisted])

end Service

end ClusterCost
