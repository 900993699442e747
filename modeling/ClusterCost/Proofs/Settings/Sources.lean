import ClusterCost.Proofs.Outcome
import ClusterCost.Proofs.Settings.Keys

/-!
# Where each setting comes from

A setting is given by its variable, or else by the file's member for it, or else it has its
initial value (`Sources.Gives`). The settings that are loaded have just these values
(`outcome_ofLayers`), whatever the sources say of other settings and whatever a variable
overrides. There are no settings if what counts for one of them cannot be converted to its type,
or if the interval of the refreshes comes to zero.
-/

namespace ClusterCost

/-- The settings, each by its name. -/
inductive SettingName where
  | clusterId
  | endpoint
  | longTerm
  | queryOffset
  | queryTimeout
  | refreshInterval
  | attempts
  | retryDelay
  | cardPath
  | apiPort
  deriving DecidableEq, Repr

namespace SettingName

/-- The name in files, which is also what stands behind the mark in the names of variables. -/
def key : SettingName → String
  | clusterId => "cluster_id"
  | endpoint => "prometheus_endpoint"
  | longTerm => "thanos_enabled"
  | queryOffset => "thanos_query_offset"
  | queryTimeout => "query_timeout_secs"
  | refreshInterval => "cluster_refresh_interval_secs"
  | attempts => "cluster_load_retries"
  | retryDelay => "cluster_load_retry_delay_secs"
  | cardPath => "pricing_config_path"
  | apiPort => "api_port"

/-- The type of a setting. -/
def Value : SettingName → Type
  | clusterId | endpoint | queryOffset => String
  | longTerm => Bool
  | queryTimeout | refreshInterval | attempts | retryDelay | apiPort => Nat
  | cardPath => Option String

/-- The value of a setting. -/
def of (settings : Settings) : (name : SettingName) → name.Value
  | clusterId => settings.clusterId
  | endpoint => settings.endpoint
  | longTerm => settings.longTerm
  | queryOffset => settings.queryOffset
  | queryTimeout => settings.queryTimeout
  | refreshInterval => settings.refreshInterval
  | attempts => settings.attempts
  | retryDelay => settings.retryDelay
  | cardPath => settings.cardPath
  | apiPort => settings.apiPort

/-- The settings with these values. -/
def gather (value : (name : SettingName) → name.Value) : Settings where
  clusterId := value clusterId
  endpoint := value endpoint
  longTerm := value longTerm
  queryOffset := value queryOffset
  queryTimeout := value queryTimeout
  refreshInterval := value refreshInterval
  attempts := value attempts
  retryDelay := value retryDelay
  cardPath := value cardPath
  apiPort := value apiPort

/-- The conversion to the type of a setting. -/
def convert? : (name : SettingName) → Setting → Option name.Value
  | clusterId => Setting.toText?
  | endpoint => Setting.toText?
  | longTerm => Setting.toBool?
  | queryOffset => Setting.toText?
  | queryTimeout => Setting.toNatOf? 64
  | refreshInterval => Setting.toNatOf? 64
  | attempts => Setting.toNatOf? 32
  | retryDelay => Setting.toNatOf? 64
  | cardPath => Setting.toOptionalText?
  | apiPort => Setting.toNatOf? 16

/-- The value of a setting that no source gives. -/
def initial (environment : Dictionary String) : (name : SettingName) → name.Value
  | clusterId => (environment.get? "CLUSTER_ID").getD "cluster-one"
  | endpoint => "http://prometheus-server:9090"
  | longTerm => false
  | queryOffset => "3h"
  | queryTimeout => (120 : Nat)
  | refreshInterval => (300 : Nat)
  | attempts => (6 : Nat)
  | retryDelay => (10 : Nat)
  | cardPath => none
  | apiPort => (9003 : Nat)

@[simp] lemma of_gather (value : (name : SettingName) → name.Value) (name : SettingName) :
    of (gather value) name = value name := by
  cases name <;> rfl

lemma of_default (environment : Dictionary String) (name : SettingName) :
    of (.default environment) name = initial environment name := by
  cases name <;> rfl

lemma of_injective {s s' : Settings} (h : ∀ name, of s name = of s' name) : s = s' := by
  have hgather : ∀ s : Settings, gather (of s) = s := fun _ => rfl
  rw [← hgather s, ← hgather s', funext h]

/-- No name of a setting leads into another. -/
lemma compound?_key (name : SettingName) : SettingKey.compound? name.key = none := by
  apply SettingKey.compound?_eq_none
  cases name <;> exact List.all_eq_true.mp rfl

end SettingName

namespace Settings

variable {α : Type} {lookup : String → Option Setting} {initial s : Settings}

/-! ### Reading all settings -/

lemma convert_eq_ok_iff {conversion : Setting → Option α} {default a : α} {found : Option Setting} :
    convert conversion default found = .ok a ↔
      (found = none ∧ default = a) ∨ ∃ s, found = some s ∧ conversion s = some a := by
  cases found with
  | none => simp [convert]
  | some s => cases h : conversion s <;> simp [convert, h]

lemma convert_eq_error_iff {conversion : Setting → Option α} {default : α} {found : Option Setting}
    {e : SettingsError} :
    convert conversion default found = .error e ↔
      e = .invalid ∧ ∃ s, found = some s ∧ conversion s = none := by
  cases found with
  | none => simp [convert]
  | some s => cases h : conversion s <;> simp [convert, h, eq_comm]

/-- Settings are read if each of them is, by the conversion to its type. -/
lemma ofLookup_eq_ok_iff : ofLookup lookup initial = .ok s ↔
    ∀ name : SettingName,
      convert name.convert? (name.of initial) (lookup name.key) = .ok (name.of s) := by
  simp only [ofLookup, bind_eq_ok_iff, pure_eq_ok, Except.ok.injEq]
  constructor
  · rintro ⟨_, h₁, _, h₂, _, h₃, _, h₄, _, h₅, _, h₆, _, h₇, _, h₈, _, h₉, _, h₁₀, rfl⟩ name
    cases name <;> assumption
  · intro h
    exact ⟨_, h .clusterId, _, h .endpoint, _, h .longTerm, _, h .queryOffset, _, h .queryTimeout,
      _, h .refreshInterval, _, h .attempts, _, h .retryDelay, _, h .cardPath, _, h .apiPort, rfl⟩

/-- If each setting can be read, so can all of them. -/
lemma exists_ofLookup
    (h : ∀ name : SettingName, ∃ value, convert name.convert? (name.of initial) (lookup name.key) =
      .ok value) : ∃ s, ofLookup lookup initial = .ok s := by
  choose value hvalue using h
  exact ⟨SettingName.gather value,
    ofLookup_eq_ok_iff.mpr fun name => by rw [SettingName.of_gather, hvalue]⟩

/-- The only error of reading settings is that one of them has another type. -/
lemma eq_invalid_of_ofLookup {e : SettingsError} (h : ofLookup lookup initial = .error e) :
    e = .invalid := by
  simp only [ofLookup, bind_eq_error_iff, pure_eq_ok, reduceCtorEq, and_false, exists_false,
    or_false, convert_eq_error_iff] at h
  grind

end Settings

/-! ### Sources -/

/-- What settings are loaded from: an environment, and the members of a file, none if
there is no file. -/
structure Sources where
  environment : Dictionary String
  members : List (String × Setting)

namespace Sources

/-- The text of the variable of a setting. -/
def inEnvironment? (src : Sources) (name : SettingName) : Option String :=
  SettingKey.valueUnder src.environment.entries (Environment.mark ++ name.key)

/-- What the file has for a setting. -/
def inFile? (src : Sources) (name : SettingName) : Option Setting :=
  SettingKey.valueUnder src.members name.key

/-- The sources give a setting a value. -/
inductive Gives (src : Sources) (name : SettingName) : name.Value → Prop
  | byVariable {text : String} {value : name.Value} (htext : src.inEnvironment? name = some text)
      (hvalue : name.convert? (.ofVariable text) = some value) : Gives src name value
  | byFile {s : Setting} {value : name.Value} (hunset : src.inEnvironment? name = none)
      (hmember : src.inFile? name = some s)
      (hvalue : name.convert? s = some value) : Gives src name value
  | byDefault (hunset : src.inEnvironment? name = none) (hmissing : src.inFile? name = none) :
      Gives src name (name.initial src.environment)

/-- What counts for a setting cannot be converted to its type. -/
inductive Misgives (src : Sources) (name : SettingName) : Prop
  | byVariable {text : String} (htext : src.inEnvironment? name = some text)
      (hvalue : name.convert? (.ofVariable text) = none) : Misgives src name
  | byFile {s : Setting} (hunset : src.inEnvironment? name = none)
      (hmember : src.inFile? name = some s) (hvalue : name.convert? s = none) :
      Misgives src name

/-- No key leads into a setting, as `a.b` leads into `a`. -/
structure Plain (src : Sources) : Prop where
  environment : ∀ entry ∈ src.environment.entries, ∀ rest,
    SettingKey.fold entry.1 = Environment.mark ++ rest →
    ∀ name : SettingName, SettingKey.compound? rest ≠ some name.key
  members : ∀ member ∈ src.members, ∀ name : SettingName,
    SettingKey.compound? (SettingKey.fold member.1) ≠ some name.key

variable {src src' : Sources} {name : SettingName} {value value' : name.Value}

/-- Sources with no settings but these ten are plain. -/
lemma plain_of_names
    (henvironment : ∀ entry ∈ src.environment.entries, ∀ rest,
      SettingKey.fold entry.1 = Environment.mark ++ rest →
      ∃ name : SettingName, rest = name.key)
    (hmembers : ∀ member ∈ src.members, ∃ name : SettingName, SettingKey.fold member.1 = name.key) :
    src.Plain where
  environment entry hentry rest hrest name := by
    obtain ⟨other, rfl⟩ := henvironment entry hentry rest hrest
    rw [other.compound?_key]
    exact Option.some_ne_none _ |>.symm
  members member hmember name := by
    obtain ⟨other, hother⟩ := hmembers member hmember
    rw [hother, other.compound?_key]
    exact Option.some_ne_none _ |>.symm

/-- What counts for a setting, and what it comes to. -/
def read (src : Sources) (name : SettingName) : Except SettingsError name.Value :=
  Settings.convert name.convert? (name.initial src.environment)
    (((src.inEnvironment? name).map .ofVariable).or (src.inFile? name))

lemma gives_iff : src.Gives name value ↔ src.read name = .ok value := by
  rw [read, Settings.convert_eq_ok_iff]
  constructor
  · rintro (⟨htext, hvalue⟩ | ⟨hunset, hmember, hvalue⟩ | ⟨hunset, hmissing⟩)
    · exact .inr ⟨_, by rw [htext]; rfl, hvalue⟩
    · exact .inr ⟨_, by rw [hunset, hmember]; rfl, hvalue⟩
    · exact .inl ⟨by rw [hunset, hmissing]; rfl, rfl⟩
  · intro h
    cases hvariable : src.inEnvironment? name with
    | some text =>
      rw [hvariable] at h
      obtain ⟨⟨⟩, -⟩ | ⟨_, ⟨⟩, hvalue⟩ := h
      exact .byVariable hvariable hvalue
    | none =>
      rw [hvariable] at h
      obtain ⟨hmissing, rfl⟩ | ⟨s, hmember, hvalue⟩ := h
      · exact .byDefault hvariable hmissing
      · exact .byFile hvariable hmember hvalue

lemma misgives_iff : src.Misgives name ↔ src.read name = .error .invalid := by
  rw [read, Settings.convert_eq_error_iff]
  constructor
  · rintro (⟨htext, hvalue⟩ | ⟨hunset, hmember, hvalue⟩)
    · exact ⟨rfl, _, by rw [htext]; rfl, hvalue⟩
    · exact ⟨rfl, _, by rw [hunset, hmember]; rfl, hvalue⟩
  · rintro ⟨-, s, hs, hvalue⟩
    cases hvariable : src.inEnvironment? name with
    | some text =>
      rw [hvariable] at hs
      cases hs
      exact .byVariable hvariable hvalue
    | none =>
      rw [hvariable] at hs
      exact .byFile hvariable hs hvalue

lemma Gives.unique (h : src.Gives name value) (h' : src.Gives name value') : value = value' := by
  rw [gives_iff] at h h'
  exact Except.ok.inj (h.symm.trans h')

lemma Gives.not_misgives (h : src.Gives name value) : ¬ src.Misgives name := by
  rw [gives_iff] at h
  rw [misgives_iff, h]
  rintro ⟨⟩

/-- Each setting is given a value, or else what counts for it is of another type. -/
lemma gives_or_misgives (src : Sources) (name : SettingName) :
    (∃ value, src.Gives name value) ∨ src.Misgives name := by
  cases hread : src.read name with
  | ok value => exact .inl ⟨value, gives_iff.mpr hread⟩
  | error e =>
    obtain ⟨rfl, -⟩ := Settings.convert_eq_error_iff.mp hread
    exact .inr (misgives_iff.mpr hread)

/-! ### What is loaded -/

/-- What loading comes to. An interval of zero matters only if every setting can be converted. -/
inductive Outcome (src : Sources) : Except SettingsError Settings → Prop
  | loaded {s : Settings} (hgives : ∀ name, src.Gives name (name.of s))
      (hinterval : s.refreshInterval ≠ 0) : Outcome src (.ok s)
  | invalid {name : SettingName} (h : src.Misgives name) : Outcome src (.error .invalid)
  | zeroInterval (hnone : ∀ name, ¬ src.Misgives name) (h : src.Gives .refreshInterval (0 : Nat)) :
      Outcome src (.error .zeroInterval)

lemma winner?_key (hplain : src.Plain) (name : SettingName) :
    Settings.winner? (Environment.layer src.environment) (Setting.layer src.members) name.key =
      ((src.inEnvironment? name).map .ofVariable).or (src.inFile? name) := by
  have henvironment := SettingKey.get?_environment_layer name.compound?_key
    fun entry hentry rest hrest => hplain.environment entry hentry rest hrest name
  have hfile := SettingKey.get?_layer name.compound?_key fun member hmember =>
    hplain.members member hmember name
  rw [Settings.winner?, henvironment, hfile]
  rfl

lemma outcome_ofLayers (hplain : src.Plain) :
    src.Outcome (Settings.ofLayers src.environment (Setting.layer src.members)) := by
  have hconvert : ∀ name : SettingName,
      Settings.convert name.convert? (name.of (Settings.default src.environment))
      (Settings.winner? (Environment.layer src.environment) (Setting.layer src.members) name.key) =
        src.read name := by
    intro name
    rw [winner?_key hplain, SettingName.of_default, read]
  rw [Settings.ofLayers]
  cases hlookup : Settings.ofLookup
    (Settings.winner? (Environment.layer src.environment) (Setting.layer src.members))
      (Settings.default src.environment) with
  | error e =>
    obtain rfl := Settings.eq_invalid_of_ofLookup hlookup
    -- If every setting were given a value, all of them could be read.
    obtain ⟨name, hname⟩ : ∃ name, src.Misgives name := by
      by_contra hnone
      obtain ⟨s, hs⟩ := Settings.exists_ofLookup fun name => by
        rw [hconvert]
        obtain ⟨value, hvalue⟩ := (src.gives_or_misgives name).resolve_right fun h =>
          hnone ⟨name, h⟩
        exact ⟨value, gives_iff.mp hvalue⟩
      rw [hlookup] at hs
      cases hs
    exact .invalid hname
  | ok s =>
    have hgives : ∀ name, src.Gives name (name.of s) := by
      intro name
      rw [gives_iff, ← hconvert]
      exact Settings.ofLookup_eq_ok_iff.mp hlookup name
    rw [ok_bind]
    split_ifs with hinterval
    · exact .zeroInterval (fun name => (hgives name).not_misgives)
        (hinterval ▸ hgives .refreshInterval)
    · exact .loaded hgives hinterval

section Outcome

variable {result result' : Except SettingsError Settings}

/-- The sources decide what loading comes to. -/
lemma Outcome.unique (h : src.Outcome result) (h' : src.Outcome result') : result = result' := by
  cases h with
  | loaded hgives hinterval =>
    cases h' with
    | loaded hgives' _ =>
      rw [SettingName.of_injective fun name => (hgives name).unique (hgives' name)]
    | invalid hname => exact absurd hname (hgives _).not_misgives
    | zeroInterval _ hzero => exact absurd ((hgives .refreshInterval).unique hzero) hinterval
  | invalid hname =>
    cases h' with
    | loaded hgives' _ => exact absurd hname (hgives' _).not_misgives
    | invalid _ => rfl
    | zeroInterval hnone _ => exact absurd hname (hnone _)
  | zeroInterval hnone hzero =>
    cases h' with
    | loaded hgives' hinterval => exact absurd ((hgives' .refreshInterval).unique hzero) hinterval
    | invalid hname => exact absurd hname (hnone _)
    | zeroInterval _ _ => rfl

/-- Only what counts for each setting matters. -/
lemma Outcome.congr (hread : ∀ name, src.read name = src'.read name) (h : src.Outcome result) :
    src'.Outcome result := by
  have hgives : ∀ {name : SettingName} {value : name.Value}, src.Gives name value →
      src'.Gives name value := by
    intro name value
    rw [gives_iff, gives_iff, hread]
    exact id
  have hmisgives : ∀ {name : SettingName}, src.Misgives name ↔ src'.Misgives name := by
    intro name
    rw [misgives_iff, misgives_iff, hread]
  cases h with
  | loaded h hinterval => exact .loaded (fun name => hgives (h name)) hinterval
  | invalid h => exact .invalid (hmisgives.mp h)
  | zeroInterval hnone hzero =>
    exact .zeroInterval (fun name => hmisgives.not.mp (hnone name)) (hgives hzero)

end Outcome

end Sources

end ClusterCost
