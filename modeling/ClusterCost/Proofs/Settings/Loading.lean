import ClusterCost.Proofs.Settings.Sources

/-!
# Loading settings

What is loaded from an environment and a file is what these sources give (`loadFrom_of_sources`).
-/

namespace ClusterCost

/-! ### Files -/

namespace SettingsFormat

/-- The members of a text, if it is a text of the format. -/
def members? (f : SettingsFormat) (s : String) : Option (List (String × Setting)) :=
  match f with
  | toml => (Toml.read s).map fun members => members.map fun (key, v) => (key, .ofToml v)
  | json => (Json.readText (.members Setting.reader) (Utf8.encode s)).toOption

lemma layer?_eq (f : SettingsFormat) (s : String) :
    f.layer? s = (f.members? s).map Setting.layer := by
  cases f with
  | toml => rw [layer?, members?, Option.map_map]; rfl
  | json => rfl

end SettingsFormat

/-- A file has these members. None is given, and then there are none, or the one that a name stands
for is a text of its format. -/
inductive SettingsFile.Holds (files : Files) : Option String → List (String × Setting) → Prop
  | none : Holds files none []
  | some {name path : String} {format : SettingsFormat} {content : Bytes}
      {members : List (String × Setting)}
      (hlocate : locate? files name = some (path, format)) (hread : files.read path = .ok content)
      (hmembers : format.members? (textOf content) = some members) : Holds files (some name) members

namespace Sources

/-- The file is the one given, and no key leads into a setting. -/
structure From (src : Sources) (files : Files) (file : Option String) : Prop where
  holds : SettingsFile.Holds files file src.members
  plain : src.Plain

/-- The sources have the same for a setting. Without them a variable of its own counts for
the id of the cluster. -/
structure AgreeOn (src src' : Sources) (name : SettingName) : Prop where
  environment : src.inEnvironment? name = src'.inEnvironment? name
  file : src.inFile? name = src'.inFile? name
  ownId : name = .clusterId → src.environment.get? "CLUSTER_ID" = src'.environment.get? "CLUSTER_ID"

section Loading

variable {src src' : Sources} {files files' : Files} {file file' : Option String}
  {name : SettingName}

lemma From.outcome (h : src.From files file) :
    src.Outcome (Settings.loadFrom src.environment files file) := by
  obtain ⟨environment, members⟩ := src
  obtain ⟨hholds, hplain⟩ := h
  cases hholds with
  | none => exact outcome_ofLayers hplain
  | some hlocate hread hmembers =>
    rw [Settings.loadFrom, SettingsFile.layer?]
    simp only [hlocate, Option.bind_eq_bind, Option.bind_some, hread, Except.toOption,
      SettingsFormat.layer?_eq, hmembers, Option.map_some]
    exact outcome_ofLayers hplain

/-- What counts for a setting decides what it comes to. -/
lemma read_congr (henvironment : src.inEnvironment? name = src'.inEnvironment? name)
    (hfile : src.inEnvironment? name = none → src.inFile? name = src'.inFile? name)
    (hinitial : name.initial src.environment = name.initial src'.environment) :
    src.read name = src'.read name := by
  rw [read, read, ← henvironment, hinitial]
  cases htext : src.inEnvironment? name with
  | none => rw [hfile htext]
  | some text => rfl

lemma AgreeOn.read_eq (h : src.AgreeOn src' name) : src.read name = src'.read name := by
  refine read_congr h.environment (fun _ => h.file) ?_
  cases name with
  | clusterId => exact congrArg (·.getD "cluster-one") (h.ownId rfl)
  | _ => rfl

end Loading

end Sources

namespace Settings

variable {src : Sources} {files : Files} {file : Option String}

lemma loadFrom_eq_ok_iff (h : src.From files file) {s : Settings} :
    loadFrom src.environment files file = .ok s ↔
      (∀ name, src.Gives name (name.of s)) ∧ 1 ≤ s.refreshInterval := by
  rw [Nat.one_le_iff_ne_zero]
  constructor
  · intro hs
    have hout := h.outcome
    rw [hs] at hout
    cases hout with
    | loaded hgives hinterval => exact ⟨hgives, hinterval⟩
  · rintro ⟨hgives, hinterval⟩
    exact h.outcome.unique (.loaded hgives hinterval)

lemma loadFrom_eq_error_iff (h : src.From files file) :
    (∃ e, loadFrom src.environment files file = .error e) ↔
      (∃ name, src.Misgives name) ∨ src.Gives .refreshInterval (0 : Nat) := by
  constructor
  · rintro ⟨e, he⟩
    have hout := h.outcome
    rw [he] at hout
    cases hout with
    | invalid hname => exact .inl ⟨_, hname⟩
    | zeroInterval _ hzero => exact .inr hzero
  · intro hfails
    by_cases hsome : ∃ name, src.Misgives name
    · obtain ⟨name, hname⟩ := hsome
      exact ⟨_, h.outcome.unique (.invalid hname)⟩
    · have hnone : ∀ name, ¬ src.Misgives name := fun name hname => hsome ⟨name, hname⟩
      exact ⟨_, h.outcome.unique (.zeroInterval hnone (hfails.resolve_left hsome))⟩

/-- Loading gives each setting what its strongest source gives, and an interval of at least one
second. It fails just if one of these values is of another type, or if the interval comes to zero.
What the file has for a setting with a variable does not matter, and neither does for one setting
what the sources have for the others. -/
theorem loadFrom_of_sources (h : src.From files file) :
    (∀ s, loadFrom src.environment files file = .ok s ↔
       (∀ name, src.Gives name (name.of s)) ∧ 1 ≤ s.refreshInterval) ∧
    ((∃ e, loadFrom src.environment files file = .error e) ↔
       (∃ name, src.Misgives name) ∨ src.Gives .refreshInterval (0 : Nat)) ∧
    (∀ (src' : Sources) files' file', src'.From files' file' → src'.environment = src.environment →
      (∀ name, src.inEnvironment? name = none → src.inFile? name = src'.inFile? name) →
      loadFrom src'.environment files' file' = loadFrom src.environment files file) ∧
    ∀ (src' : Sources) files' file' s s', src'.From files' file' →
      loadFrom src.environment files file = .ok s →
      loadFrom src'.environment files' file' = .ok s' →
        ∀ name, src.AgreeOn src' name → name.of s = name.of s' := by
  refine ⟨fun s => loadFrom_eq_ok_iff h, loadFrom_eq_error_iff h,
    fun src' files' file' h' henvironment hfile => ?_,
    fun src' files' file' s s' h' hs hs' name hagree => ?_⟩
  · have hread : ∀ name, src.read name = src'.read name := fun name =>
      Sources.read_congr (by rw [Sources.inEnvironment?, Sources.inEnvironment?, henvironment])
        (hfile name) (by rw [henvironment])
    exact h'.outcome.unique (h.outcome.congr hread)
  · have hgives := ((loadFrom_eq_ok_iff h).mp hs).1 name
    have hgives' := ((loadFrom_eq_ok_iff h').mp hs').1 name
    rw [Sources.gives_iff, hagree.read_eq] at hgives
    exact (Sources.gives_iff.mpr hgives).unique hgives'

/-- A port from a variable in an unusual case, before a file that has a list there. -/
theorem loadFrom_of_sources_overridden :
    let text := "\x7b\"Api_Port\": [], \"cluster_id\": \"a\"\x7d"
    let files : Files := { root := "/d", entries := [(["s.json"], .file (Utf8.encode text))] }
    let environment : Dictionary String := .ofList [("Cost_Model_API_PORT", "8080")]
    ∃ s, loadFrom environment files (some "/d/s.json") = .ok s ∧ s.apiPort = 8080 ∧
      s.clusterId = "a" ∧ s.refreshInterval = 300 := by
  intro text files environment
  let src : Sources := ⟨environment, [("Api_Port", .compound), ("cluster_id", .text "a")]⟩
  have hfrom : src.From files (some "/d/s.json") := by
    constructor
    · exact @SettingsFile.Holds.some files "/d/s.json" "/d/s.json" .json (Utf8.encode text) _
        (by decide +kernel) (by decide +kernel) (by with_unfolding_all rfl)
    · refine Sources.plain_of_names (fun entry hentry rest hrest => ⟨.apiPort, ?_⟩)
        fun member hmember => ?_
      · obtain rfl : entry = ("Cost_Model_API_PORT", "8080") := List.mem_singleton.mp hentry
        have hname : SettingKey.fold "Cost_Model_API_PORT" = Environment.mark ++ "api_port" := by
          decide
        exact SettingKey.mark_append_inj.mp (hrest.symm.trans hname)
      · rcases List.mem_pair.mp hmember with rfl | rfl
        · exact ⟨.apiPort, by decide⟩
        · exact ⟨.clusterId, by decide⟩
  refine ⟨{ default environment with clusterId := "a", apiPort := 8080 },
    ((loadFrom_of_sources hfrom).1 _).mpr ⟨fun name => ?_, by decide⟩, rfl, rfl, rfl⟩
  cases name with
  | apiPort => exact @Sources.Gives.byVariable src .apiPort "8080" (8080 : Nat) (by rfl) (by rfl)
  | clusterId =>
    exact @Sources.Gives.byFile src .clusterId (.text "a") "a" (by rfl) (by rfl) (by rfl)
  | _ => exact .byDefault (by rfl) (by rfl)

end Settings

end ClusterCost
