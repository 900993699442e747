import ClusterCost.Proofs.Decimal.Numeral
import ClusterCost.Proofs.Settings.Loading

/-!
# Settings from variables

The text of a variable is taken for a truth value, a whole number or a floating-point number if it
spells one, and only otherwise for a text (`spelled_iff`). A setting that is a text then gets what
was understood written out. So the id of the own cluster is not always what its variable has,
whereas the variable that stands in for it is taken as it is (`clusterId_of_variable`).
-/

namespace ClusterCost

namespace Setting

/-! ### What a text spells -/

/-- The text is the word for a truth value, in any case. -/
def IsWord (text : String) (b : Bool) : Prop := text.toList.map Char.toLower = (toString b).toList

/-- A whole number of 64 bits with a sign. -/
def IsLong (n : Int) : Prop := -(Nat.pow 2 63 : Int) ≤ n ∧ n < Nat.pow 2 63

/-- What the text of a variable is taken for. -/
inductive Spelled (text : String) : Setting → Prop
  | bool {b : Bool} (h : IsWord text b) : Spelled text (.bool b)
  | integer {n : Int} (h : Numeral.Integer text.toList n) (hlong : IsLong n) :
      Spelled text (.integer n)
  | real {n : Numeral} (h : Numeral.Spells text.toList n)
      (hnone : ∀ m, Numeral.Integer text.toList m → ¬ IsLong m) :
      Spelled text (.real n.toFloat)
  | text (hword : ∀ b, ¬ IsWord text b) (hnumeral : ∀ n, ¬ Numeral.Spells text.toList n) :
      Spelled text (.text text)

section Spelled

variable {text : String} {b : Bool} {s : Setting}

/-- A whole number is a numeral. -/
lemma exists_spells {cs : List Char} {n : Int} (h : Numeral.Integer cs n) :
    ∃ m, Numeral.Spells cs m := by
  obtain @⟨sign, digits, negative, hsign, hsome, hdigits⟩ := h
  have hnumber : Numeral.Number negative (digits ++ ([] ++ [])) _ :=
    .intro hdigits .none (.inl hsome) .none
  rw [List.append_nil, List.append_nil] at hnumber
  exact ⟨_, .intro hsign (.number hnumber)⟩

/-- No word for a truth value starts as a numeral does. -/
lemma not_isWord_of_spells {n : Numeral} (h : Numeral.Spells text.toList n) (b : Bool) :
    ¬ IsWord text b := by
  rw [IsWord]
  generalize text.toList = cs at h
  obtain @⟨sign, rest, negative, n, hsign, hrest⟩ := h
  intro hword
  cases hsign with
  | none =>
    rw [List.nil_append] at hword
    cases hrest with
    | infinite h =>
      rcases h with h | h <;> rw [h] at hword <;> cases b <;> exact absurd hword (by decide)
    | notANumber h =>
      rw [h] at hword
      cases b <;> exact absurd hword (by decide)
    | number h =>
      obtain ⟨c, rest, rfl, hc⟩ := h.head
      rw [List.map_cons, Numeral.toLower_eq_self hc] at hword
      cases b <;> obtain ⟨rfl, -⟩ := List.cons.inj hword <;> exact absurd hc (by decide)
  | plus => cases b <;> exact absurd (List.cons.inj hword).1 (by decide)
  | minus => cases b <;> exact absurd (List.cons.inj hword).1 (by decide)

/-- The whole number that a text spells, if it has 64 bits. -/
def long? (text : String) : Option Int :=
  (Numeral.readInteger text.toList).filter fun n => -(Nat.pow 2 63 : Int) ≤ n && n < Nat.pow 2 63

lemma long?_eq_some_iff {n : Int} :
    long? text = some n ↔ Numeral.Integer text.toList n ∧ IsLong n := by
  rw [long?, Option.filter_eq_some_iff, Numeral.readInteger_eq_some_iff, IsLong, Bool.and_eq_true,
    decide_eq_true_iff, decide_eq_true_iff]

lemma long?_eq_none_iff : long? text = none ↔ ∀ n, Numeral.Integer text.toList n → ¬ IsLong n := by
  simp only [Option.eq_none_iff_forall_ne_some, ne_eq, long?_eq_some_iff, not_and]

lemma ofVariable_of_isWord (h : IsWord text b) : ofVariable text = .bool b := by
  have hword : String.ofList (text.toList.map Char.toLower) = toString b := by
    rw [h, String.ofList_toList]
  rw [ofVariable]
  simp only [hword]
  cases b <;> rfl

lemma ofVariable_of_not_isWord (h : ∀ b, ¬ IsWord text b) :
    ofVariable text =
      (long? text).elim ((Numeral.readFloat text).toOption.elim (.text text) .real) .integer := by
  have htrue : ¬ (String.ofList (text.toList.map Char.toLower) == "true") = true :=
    (Numeral.ofList_beq _ _).not.mpr (h true)
  have hfalse : ¬ (String.ofList (text.toList.map Char.toLower) == "false") = true :=
    (Numeral.ofList_beq _ _).not.mpr (h false)
  rw [ofVariable]
  simp only [if_neg htrue, if_neg hfalse]
  rw [← long?]
  cases long? text with
  | some n => rfl
  | none => cases Numeral.readFloat text <;> rfl

/-- The setting of a variable is what its text spells. -/
theorem spelled_iff : Spelled text s ↔ ofVariable text = s := by
  constructor
  · rintro (h | ⟨h, hlong⟩ | ⟨h, hnone⟩ | ⟨hword, hnumeral⟩)
    · exact ofVariable_of_isWord h
    · obtain ⟨m, hm⟩ := exists_spells h
      rw [ofVariable_of_not_isWord (not_isWord_of_spells hm), long?_eq_some_iff.mpr ⟨h, hlong⟩,
        Option.elim_some]
    · rw [ofVariable_of_not_isWord (not_isWord_of_spells h), long?_eq_none_iff.mpr hnone,
        Option.elim_none, Numeral.readFloat_eq_ok_iff.mpr ⟨_, h, rfl⟩]
      rfl
    -- A whole number would be a numeral.
    · have hlong : long? text = none := by
        rw [long?_eq_none_iff]
        intro n hn
        obtain ⟨m, hm⟩ := exists_spells hn
        exact absurd hm (hnumeral m)
      rw [ofVariable_of_not_isWord hword, hlong, Option.elim_none]
      cases hread : Numeral.readFloat text with
      | error e => rfl
      | ok x =>
        obtain ⟨n, hn, -⟩ := Numeral.readFloat_eq_ok_iff.mp hread
        exact absurd hn (hnumeral n)
  · rintro rfl
    by_cases hword : ∃ b, IsWord text b
    · obtain ⟨b, hb⟩ := hword
      rw [ofVariable_of_isWord hb]
      exact .bool hb
    · rw [not_exists] at hword
      rw [ofVariable_of_not_isWord hword]
      cases hlong : long? text with
      | some n =>
        obtain ⟨hn, hlong⟩ := long?_eq_some_iff.mp hlong
        exact .integer hn hlong
      | none =>
        cases hread : Numeral.readFloat text with
        | ok x =>
          obtain ⟨n, hn, rfl⟩ := Numeral.readFloat_eq_ok_iff.mp hread
          exact .real hn (long?_eq_none_iff.mp hlong)
        | error e =>
          refine .text hword fun n hn => ?_
          rw [Numeral.readFloat_eq_ok_iff.mpr ⟨n, hn, rfl⟩] at hread
          cases hread

/-- Whatever a text spells can be written out. -/
lemma exists_toText? (text : String) : ∃ written, (ofVariable text).toText? = some written := by
  have hspelled : Spelled text (ofVariable text) := spelled_iff.mpr rfl
  generalize ofVariable text = s at hspelled ⊢
  cases hspelled <;> exact ⟨_, rfl⟩

end Spelled

end Setting

/-! ### Environments with one variable -/

namespace Sources

variable {key text : String}

/-- One variable, and no file. -/
def only (key text : String) : Sources := ⟨.ofList [(key, text)], []⟩

lemma inEnvironment?_only (name : SettingName) :
    (only key text).inEnvironment? name =
      if Environment.mark ++ name.key = SettingKey.fold key then some text else none := by
  rw [inEnvironment?, show (only key text).environment.entries = [(key, text)] from rfl,
    SettingKey.valueUnder_cons, SettingKey.valueUnder_nil, Option.none_or]

lemma from_only
    (h : ∀ rest, SettingKey.fold key = Environment.mark ++ rest →
       ∃ name : SettingName, rest = name.key)
    (files : Files) : (only key text).From files none := by
  refine ⟨.none,
    plain_of_names (fun entry hentry => ?_) fun member hmember => absurd hmember List.not_mem_nil⟩
  obtain rfl : entry = (key, text) := List.mem_singleton.mp hentry
  exact h

/-- A setting without a variable of its own has its initial value. -/
lemma gives_only {name : SettingName} (h : Environment.mark ++ name.key ≠ SettingKey.fold key) :
    (only key text).Gives name (name.initial (only key text).environment) :=
  .byDefault (by rw [inEnvironment?_only, if_neg h]) rfl

end Sources

/-! ### The id of the own cluster -/

namespace Settings

lemma one_le_default (environment : Dictionary String) :
    1 ≤ (default environment).refreshInterval :=
  Nat.succ_pos 299

/-- The id from its variable is what the text spells, written out. -/
lemma loadFrom_of_clusterId (text : String) (files : Files) : ∃ s,
    loadFrom (.ofList [("COST_MODEL_CLUSTER_ID", text)]) files none = .ok s ∧
    (Setting.ofVariable text).toText? = some s.clusterId := by
  have hname : SettingKey.fold "COST_MODEL_CLUSTER_ID" = Environment.mark ++ "cluster_id" := by
    decide
  have hfrom : (Sources.only "COST_MODEL_CLUSTER_ID" text).From files none := by
    refine Sources.from_only (fun rest hrest => ?_) files
    exact ⟨.clusterId, SettingKey.mark_append_inj.mp (hrest.symm.trans hname)⟩
  obtain ⟨written, hwritten⟩ := Setting.exists_toText? text
  refine ⟨{ default (Sources.only "COST_MODEL_CLUSTER_ID" text).environment with
      clusterId := written },
    (loadFrom_eq_ok_iff hfrom).mpr ⟨fun name => ?_,
      one_le_default (Sources.only "COST_MODEL_CLUSTER_ID" text).environment⟩, hwritten⟩
  cases name with
  | clusterId => exact .byVariable (by rw [Sources.inEnvironment?_only, hname]; rfl) hwritten
  | _ => exact Sources.gives_only (by decide)

/-- The variable that stands in for the id is taken as it is. -/
lemma loadFrom_of_ownId (text : String) (files : Files) : ∃ s,
    loadFrom (.ofList [("CLUSTER_ID", text)]) files none = .ok s ∧ s.clusterId = text := by
  have hname : ∀ rest, SettingKey.fold "CLUSTER_ID" ≠ Environment.mark ++ rest := by
    intro rest h
    have hchars := congrArg String.toList h
    rw [String.toList_append] at hchars
    exact absurd (List.cons.inj (List.cons.inj hchars).2).1 (by decide)
  have hfrom : (Sources.only "CLUSTER_ID" text).From files none :=
    Sources.from_only (fun rest hrest => absurd hrest (hname rest)) files
  refine ⟨default (Sources.only "CLUSTER_ID" text).environment,
    (loadFrom_eq_ok_iff hfrom).mpr ⟨fun name => ?_, one_le_default _⟩, rfl⟩
  rw [SettingName.of_default]
  exact Sources.gives_only (hname _).symm

/-- The variable that stands in for the id of the own cluster gives it as it is. The variable of the
id gives it as it is only if the text is neither a word for a truth value nor a numeral; otherwise
the id is what the text spells, written out. -/
theorem clusterId_of_variable (text : String) (files : Files) :
    (∃ s, loadFrom (.ofList [("CLUSTER_ID", text)]) files none = .ok s ∧ s.clusterId = text) ∧
    ∃ s, loadFrom (.ofList [("COST_MODEL_CLUSTER_ID", text)]) files none = .ok s ∧
      (∀ b, Setting.IsWord text b → s.clusterId = toString b) ∧
      (∀ n, Numeral.Integer text.toList n → Setting.IsLong n → s.clusterId = toString n) ∧
      (∀ n, Numeral.Spells text.toList n →
        (∀ m, Numeral.Integer text.toList m → ¬ Setting.IsLong m) →
        s.clusterId = Layout.plain.write n.toFloat) ∧
      ((∀ b, ¬ Setting.IsWord text b) → (∀ n, ¬ Numeral.Spells text.toList n) →
         s.clusterId = text) := by
  refine ⟨loadFrom_of_ownId text files, ?_⟩
  obtain ⟨s, hs, hwritten⟩ := loadFrom_of_clusterId text files
  have hid : ∀ {setting : Setting}, Setting.Spelled text setting →
      setting.toText? = some s.clusterId := by
    intro setting hspelled
    rw [← Setting.spelled_iff.mp hspelled, hwritten]
  refine ⟨s, hs, fun b hb => ?_, fun n hn hlong => ?_, fun n hn hnone => ?_,
    fun hword hnumeral => ?_⟩
  · have hbool := Option.some.inj (hid (.bool hb))
    cases b <;> exact hbool.symm
  · exact (Option.some.inj (hid (.integer hn hlong))).symm
  · exact (Option.some.inj (hid (.real hn hnone))).symm
  · exact (Option.some.inj (hid (.text hword hnumeral))).symm

/-- An id with zeros in front loses them, but not if it is given by the variable that stands in. -/
theorem clusterId_rewritten : ∃ s s',
    loadFrom (.ofList [("COST_MODEL_CLUSTER_ID", "007")]) (.empty "/") none = .ok s ∧
    s.clusterId = "7" ∧
    loadFrom (.ofList [("CLUSTER_ID", "007")]) (.empty "/") none = .ok s' ∧
    s'.clusterId = "007" := by
  obtain ⟨s, hs, hwritten⟩ := loadFrom_of_clusterId "007" (.empty "/")
  obtain ⟨s', hs', hid⟩ := loadFrom_of_ownId "007" (.empty "/")
  have hseven : Setting.ofVariable "007" = .integer 7 := by rfl
  rw [hseven] at hwritten
  exact ⟨s, s', hs, (Option.some.inj hwritten).symm, hs', hid⟩

end Settings

end ClusterCost
