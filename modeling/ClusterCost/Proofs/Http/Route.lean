import ClusterCost.Http.Route
import Mathlib.Tactic.Common

/-!
# The paths of routes

Paths are matched as they are written, so each route is served under one path (`ofPath?_path`) and
no other (`eq_path_of_ofPath?`).
-/

namespace ClusterCost.Http.Route

/-- What stands between the slashes of a route's path. -/
def segments : Route → List String
  | liveness => ["healthz"]
  | readiness => ["readyz"]
  | metrics => ["metrics"]
  | clusters => ["clusters"]
  | cluster id => ["clusters", id]
  | nameId id => ["clusters", id, "nameid"]
  | rateCard => ["pricing", "config"]
  | nodePrices => ["pricing", "nodes"]
  | networkRates => ["pricing", "network"]
  | balancerCost => ["pricing", "loadbalancer"]

/-- The path under which a route is served. -/
def path (r : Route) : String :=
  String.ofList (['/'].intercalate ([] :: r.segments.map String.toList))

/-- A slash stands before each segment. -/
lemma toList_path (r : Route) : r.path.toList = r.segments.flatMap fun t => '/' :: t.toList := by
  have hparts : ∀ parts : List (List Char),
      ['/'].intercalate ([] :: parts) = parts.flatMap ('/' :: ·) := by
    intro parts
    induction parts with
    | nil => rfl
    | cons part rest ih =>
      rw [List.flatMap_cons, ← ih]
      cases rest <;> simp [List.intercalate]
  rw [path, String.toList_ofList, hparts, List.flatMap_map]

lemma eq_segments_of_ofSegments? {segments : List String} {r : Route}
    (h : ofSegments? segments = some r) : segments = r.segments := by
  unfold ofSegments? at h
  split at h
  case h_5 id =>
    by_cases hid : id == ""
    · simp [hid] at h
    · simp only [hid, Bool.false_eq_true, if_false, Option.some.injEq] at h
      rw [← h, Route.segments]
  case h_11 => cases h
  all_goals
    cases h
    rfl

lemma eq_path_of_ofPath? {path : String} {r : Route} (h : ofPath? path = some r) :
    path = r.path := by
  rw [ofPath?] at h
  split at h
  · rename_i segments hsplit
    have hparts : path.toList.splitOn '/' = [] :: segments.map String.toList := by
      have hlists := congrArg (List.map String.toList) hsplit
      simpa [List.map_map, Function.comp_def] using hlists
    apply String.toList_injective
    rw [Route.path, String.toList_ofList, ← eq_segments_of_ofSegments? h, ← hparts]
    exact (List.intercalate_splitOn '/').symm
  · cases h

lemma ofSegments?_segments {r : Route} (h : r ≠ cluster "") : ofSegments? r.segments = some r := by
  cases r with
  | cluster id =>
    have hid : id ≠ "" := fun heq => h (congrArg cluster heq)
    simp [segments, ofSegments?, hid]
  | _ => rfl

/-- Each route is served under its path, if no slash is in its id. The one without an id
is that of no cluster. -/
lemma ofPath?_path {r : Route} (hslash : ∀ t ∈ r.segments, '/' ∉ t.toList) (h : r ≠ cluster "") :
    ofPath? r.path = some r := by
  have hparts : ∀ l ∈ [] :: r.segments.map String.toList, '/' ∉ l := by
    simpa using hslash
  have hsplit : r.path.toList.splitOn '/' = [] :: r.segments.map String.toList := by
    rw [path, String.toList_ofList]
    exact List.splitOn_intercalate '/' hparts (List.cons_ne_nil _ _)
  have hsegments : (r.segments.map String.toList).map String.ofList = r.segments := by
    simp [List.map_map, Function.comp_def]
  rw [ofPath?, hsplit, List.map_cons, hsegments]
  exact ofSegments?_segments h

lemma ofPath?_eq_rateCard {path : String} :
    ofPath? path = some rateCard ↔ path = "/pricing/config" := by
  constructor
  · intro h
    rw [eq_path_of_ofPath? h]
    decide
  · rintro rfl
    decide

end ClusterCost.Http.Route
