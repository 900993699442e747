import ClusterCost.Proofs.Json.Records
import ClusterCost.Query.Answer

/-!
# The data of an answer

Data is read from an object that names its kind in one member and has its content in another, in
either order and among others, or from the list of these two (`MeansData`). What content means
depends on the kind (`ResultKind.Content`). The reader of data takes just what this grammar
allows (`ResultSet.reads`).
-/

namespace ClusterCost

open Json

/-! ### Room for lists and objects -/

namespace Json.Reading

variable {r : Reading} {n : Nat}

/-- So many lists and objects can be entered, one in another. -/
def Roomy (r : Reading) (n : Nat) : Prop := r.held = true ∨ n < r.depth

lemma Roomy.mono (h : r.Roomy n) {m : Nat} (hm : m ≤ n) : r.Roomy m := h.imp_right fun h => by omega

lemma Roomy.opens (h : r.Roomy n) (hn : 1 ≤ n) : r.Opens := h.mono hn

lemma Roomy.inner (h : r.Roomy (n + 1)) : r.inner.Roomy n := by
  by_cases hheld : r.held = true
  · exact .inl (by rw [held_inner, hheld])
  · rcases h with h | h
    · exact absurd h hheld
    · refine .inr ?_
      rw [depth_inner (eq_false_of_ne_true hheld)]
      omega

end Json.Reading

/-! ### Samples and series -/

/-- A sample is the list of its time and the text of its value. -/
def RawSample.Means : Tree → RawSample → Prop := MeansPair MeansReal MeansText

lemma RawSample.reads {r : Reading} (h : r.Opens) : Reads r RawSample.reader RawSample.Means :=
  (reads_real _).pair (reads_text _) h

namespace Labelled

variable {α : Type} {r : Reading}

/-- The labels, which may be left out, and the content under a key. -/
def parts (key : String) (content : Tree → α → Prop) : List (Portion (Labelled α)) := [
  .of "metric" .defaulted (MeansMembers MeansText) fun labels s =>
    { s with labels := .ofList labels },
  .of key .required content fun a s => { s with content := a }]

def Means (key : String) (blank : α) (content : Tree → α → Prop) : Tree → Labelled α → Prop :=
  MeansRecord (parts key content) ⟨.empty, blank⟩

lemma reads {name key : String} {blank : α} {read : Json.Reader α} {content : Tree → α → Prop}
    (hkey : "metric" ≠ key) (hroom : r.Roomy 2) (h : Reads r.inner read content) :
    Reads r (Labelled.reader name key blank read) (Means key blank content) := by
  refine reads_record _ (.cons ?_ (.cons (h.fills _ _ _) .nil)) ?_ ?_ (hroom.opens (by omega))
  · exact ((reads_text _).members (hroom.inner.opens le_rfl)).fills _ _ _
  · exact List.pairwise_pair.mpr (Portion.commutes_of fun _ _ _ => rfl)
  · exact List.nodup_cons.mpr ⟨by simpa [Portion.of] using hkey,
      List.nodup_cons.mpr ⟨List.not_mem_nil, List.nodup_nil⟩⟩

end Labelled

/-! ### Kinds and their content -/

namespace ResultKind

/-- The names of the kinds. -/
def names : List (String × ResultKind) :=
  [("vector", vector), ("matrix", matrix), ("scalar", scalar), ("string", text)]

/-- A tree names a kind. -/
def Named : Tree → ResultKind → Prop := MeansVariant names

lemma reads_named {r : Reading} (h : r.Opens) : Reads r ResultKind.reader Named :=
  reads_variant names h

/-- What content of a kind means. -/
def Content : ResultKind → Tree → ResultSet → Prop
  | vector =>
    fun t data => ∃ series, MeansList (Labelled.Means "value" (0, "") RawSample.Means) t series ∧
      .vector series = data
  | matrix =>
    fun t data => ∃ series,
      MeansList (Labelled.Means "values" [] (MeansList RawSample.Means)) t series ∧
      .matrix series = data
  | scalar => fun t data => ∃ sample, RawSample.Means t sample ∧ .scalar sample = data
  | text => fun t data => ∃ sample, RawSample.Means t sample ∧ .text sample = data

lemma reads_content (kind : ResultKind) {r : Reading} (h : r.Roomy 4) :
    Reads r kind.dataReader kind.Content := by
  have hopens := h.opens (by omega)
  have hseries := h.inner
  have hcontent := h.inner.inner
  cases kind with
  | vector =>
    have hsample := RawSample.reads (hcontent.opens (by omega))
    have hkey : "metric" ≠ "value" := by decide
    exact ((Labelled.reads hkey (hseries.mono (by omega)) hsample).list hopens).map ResultSet.vector
  | matrix =>
    have hsamples := (RawSample.reads (hcontent.inner.opens le_rfl)).list
      (hcontent.opens (by omega))
    have hkey : "metric" ≠ "values" := by decide
    exact ((Labelled.reads hkey (hseries.mono (by omega)) hsamples).list hopens).map
      ResultSet.matrix
  | scalar => exact (RawSample.reads hopens).map ResultSet.scalar
  | text => exact (RawSample.reads hopens).map ResultSet.text

end ResultKind

/-! ### Data -/

namespace ResultSet

/-- The members of an object in the order of the text. -/
abbrev Members := List (Option String × Tree)

/-- The key can be decoded and does not matter. -/
def Other (key : Option String) : Prop := key ≠ none ∧ key ≠ some kindKey ∧ key ≠ some contentKey

/-- The first member that matters, or whose key cannot be decoded, and the members after it. -/
inductive First (key : Option String) (t : Tree) (after : Members) : Members → Prop
  | here : First key t after ((key, t) :: after)
  | later {m : Option String × Tree} {ms : Members} (h : Other m.1) (more : First key t after ms) :
      First key t after (m :: ms)

/-- Data names its kind and has content of this kind. If the content comes first, it is set aside,
and so it must be such that any value with it can be kept. -/
inductive MeansData {β : Type} (room : Nat) (content : ResultKind → Tree → β → Prop) :
    Tree → β → Prop
  | kindFirst {ms between after : Members} {k c : Tree} {kind : ResultKind} {data : β}
      (hfirst : First (some kindKey) k between ms)
      (hsecond : First (some contentKey) c after between) (hafter : ∀ m ∈ after, Other m.1)
      (hkind : ResultKind.Named k kind)
      (hcontent : content kind c data) : MeansData room content (.object ms) data
  | contentFirst {ms between after : Members} {k c : Tree} {kind : ResultKind} {data : β}
      (hfirst : First (some contentKey) c between ms)
      (hsecond : First (some kindKey) k after between) (hafter : ∀ m ∈ after, Other m.1)
      (hkind : ResultKind.Named k kind)
      (hkept : c.Kept room) (hcontent : content kind c data) :
      MeansData room content (.object ms) data
  | list {k c : Tree} {kind : ResultKind} {data : β} (hkind : ResultKind.Named k kind)
      (hcontent : content kind c data) :
      MeansData room content (.list [k, c]) data

/-- What data means depends on its content as what content means does. -/
lemma MeansData.follows {β γ : Type} {R : β → γ → Prop} {room : Nat}
    {content : ResultKind → Tree → β → Prop} {content' : ResultKind → Tree → γ → Prop}
    (hcontent : ∀ kind c b, content kind c b → ∃ d, content' kind c d ∧ R b d) {t : Tree} {b : β}
    (h : MeansData room content t b) : ∃ d, MeansData room content' t d ∧ R b d := by
  cases h with
  | kindFirst hfirst hsecond hafter hkind h =>
    obtain ⟨d, hd, hbd⟩ := hcontent _ _ _ h
    exact ⟨d, .kindFirst hfirst hsecond hafter hkind hd, hbd⟩
  | contentFirst hfirst hsecond hafter hkind hkept h =>
    obtain ⟨d, hd, hbd⟩ := hcontent _ _ _ h
    exact ⟨d, .contentFirst hfirst hsecond hafter hkind hkept hd, hbd⟩
  | list hkind h =>
    obtain ⟨d, hd, hbd⟩ := hcontent _ _ _ h
    exact ⟨d, .list hkind hd, hbd⟩

section Members

variable {r : Reading} {closing : Except Fault Nat} {members : List (Key × Outline)} {ms : Members}
  {draft d : Draft}

/-- What the members of an object say, one by one. -/
abbrev SayMembers (members : List (Key × Outline)) (ms : Members) : Prop :=
  List.Forall₂ (fun member m => member.1.text.toOption = m.1 ∧ member.2.tree? = some m.2) members ms

lemma key_cases {key : Option String} (h : ¬ Other key) :
    key = none ∨ key = some kindKey ∨ key = some contentKey := by
  simpa only [Other, ne_eq, not_and_or, not_not] using h

lemma not_other_kindKey : ¬ Other (some kindKey) := fun h => h.2.1 rfl

lemma not_other_contentKey : ¬ Other (some contentKey) := fun h => h.2.2 rfl

section First

variable {key other : Option String} {t t' : Tree} {after after' ms : Members}

/-- In each object there is a first member that matters, or none. -/
lemma others_or_first (ms : Members) :
    (∀ m ∈ ms, Other m.1) ∨ ∃ key t after, First key t after ms ∧ ¬ Other key := by
  induction ms with
  | nil => exact .inl fun _ hm => absurd hm List.not_mem_nil
  | cons m ms ih =>
    by_cases hm : Other m.1
    · rcases ih with hothers | ⟨key, t, after, hfirst, hkey⟩
      · exact .inl (List.forall_mem_cons.mpr ⟨hm, hothers⟩)
      · exact .inr ⟨key, t, after, .later hm hfirst, hkey⟩
    · exact .inr ⟨m.1, m.2, ms, .here, hm⟩

lemma First.not_others (h : First key t after ms) (hkey : ¬ Other key) : ¬ ∀ m ∈ ms, Other m.1 := by
  intro hothers
  induction h with
  | here => exact hkey (hothers _ List.mem_cons_self)
  | later _ _ ih => exact ih (List.forall_mem_cons.mp hothers).2

lemma First.unique (h : First key t after ms) (hkey : ¬ Other key) (h' : First other t' after' ms)
    (hother : ¬ Other other) : key = other ∧ t = t' ∧ after = after' := by
  induction h with
  | here =>
    cases h' with
    | here => exact ⟨rfl, rfl, rfl⟩
    | later hm _ => exact absurd hm hkey
  | later hm _ ih =>
    cases h' with
    | here => exact absurd hm hother
    | later _ h' => exact ih h'

end First

/-- A member that does not matter is passed over. -/
lemma addMember_other {key : Key} {o : Outline} {k : Option String} {t : Tree}
    (hkey : key.text.toOption = k) (ho : o.tree? = some t) (hother : Other k) (place : Nat) :
    addMember r draft (key, o) place = .ok draft := by
  obtain ⟨hsome, hkind, hcontent⟩ := hother
  obtain ⟨name, rfl⟩ := Option.ne_none_iff_exists'.mp hsome
  have hname := toOption_eq_some_iff.mp hkey
  have hskip := (Outline.skipFailure_eq_none_iff o).mpr ⟨t, ho⟩
  have hne : name ≠ kindKey ∧ name ≠ contentKey :=
    ⟨fun h => hkind (congrArg some h), fun h => hcontent (congrArg some h)⟩
  simp [addMember, hname, hne, hskip]

lemma addMembers_cons (r : Reading) (closing : Except Fault Nat) (member : Key × Outline)
    (rest : List (Key × Outline)) :
    ∃ place, ∀ draft, addMembers r closing draft (member :: rest) =
      (addMember r draft member place >>= fun d => addMembers r closing d rest) :=
  ⟨_, fun _ => rfl⟩

lemma addMembers_others (h : SayMembers members ms) (hothers : ∀ m ∈ ms, Other m.1) :
    addMembers r closing draft members = .ok draft := by
  induction h with
  | nil => rfl
  | @cons member m members ms hmember hrest ih =>
    obtain ⟨hm, hothers⟩ := List.forall_mem_cons.mp hothers
    obtain ⟨place, hcons⟩ := addMembers_cons r closing member members
    rw [hcons, addMember_other hmember.1 hmember.2 hm]
    exact ih hothers

/-- Members are passed over up to the first that matters. -/
lemma addMembers_first {key : Option String} {t : Tree} {after : Members}
    (h : SayMembers members ms) (hfirst : First key t after ms) :
    ∃ member place rest, member.1.text.toOption = key ∧ member.2.tree? = some t ∧
      SayMembers rest after ∧
      ∀ draft, addMembers r closing draft members =
        (addMember r draft member place >>= fun d => addMembers r closing d rest) := by
  induction h with
  | nil => cases hfirst
  | @cons member m members ms hmember hrest ih =>
    cases hfirst with
    | here =>
      obtain ⟨place, hcons⟩ := addMembers_cons r closing member members
      exact ⟨member, place, members, hmember.1, hmember.2, hrest, hcons⟩
    | later hm hfirst =>
      obtain ⟨first, place, rest, hkey, ht, hsay, hmembers⟩ := ih hfirst
      refine ⟨first, place, rest, hkey, ht, hsay, fun draft => ?_⟩
      obtain ⟨_, hcons⟩ := addMembers_cons r closing member members
      rw [hcons, addMember_other hmember.1 hmember.2 hm]
      exact hmembers draft

/-- No draft takes a member whose key cannot be decoded. -/
lemma addMember_undecoded {key : Key} {o : Outline} (hkey : key.text.toOption = none)
    (place : Nat) : addMember r draft (key, o) place ≠ .ok d := by
  cases htext : key.text with
  | ok name => simp [htext, Except.toOption] at hkey
  | error failure => simp [addMember, htext]

section Marked

variable {content : ResultKind → Tree → ResultSet → Prop} {key : Key} {o aside : Outline}
  {t c : Tree} {kind : ResultKind} {data : ResultSet}

/-- The kind makes a blank draft one of this kind. -/
lemma addMember_kind (hopens : r.Opens) (hkey : key.text.toOption = some kindKey)
    (ho : o.tree? = some t) (place : Nat) :
    addMember r .blank (key, o) place = .ok d ↔
      ∃ kind, ResultKind.Named t kind ∧ d = .ofKind kind := by
  simp only [addMember, toOption_eq_some_iff.mp hkey, bind_eq_ok_iff, Except.ok.injEq,
    exists_eq_left', beq_self_eq_true, if_true, (ResultKind.reads_named hopens).ok_iff ho,
    pure_eq_ok, eq_comm (a := d)]

/-- The content completes a draft of a known kind. -/
lemma addMember_content (h : Reads r kind.dataReader (content kind))
    (hkey : key.text.toOption = some contentKey) (ho : o.tree? = some c) (place : Nat) :
    addMember r (.ofKind kind) (key, o) place = .ok d ↔
      ∃ data, content kind c data ∧ d = .whole data := by
  have hne : (contentKey == kindKey) = false := by decide
  simp only [addMember, toOption_eq_some_iff.mp hkey, bind_eq_ok_iff, Except.ok.injEq,
    exists_eq_left', hne, beq_self_eq_true, if_true, Bool.false_eq_true, if_false, h.ok_iff ho,
    pure_eq_ok, eq_comm (a := d)]

/-- Content that comes first is set aside. -/
lemma addMember_aside (hheld : r.held = false) (hkey : key.text.toOption = some contentKey)
    (ho : o.tree? = some c) (place : Nat) :
    addMember r .blank (key, o) place = .ok d ↔ c.Kept (r.depth - 1) ∧ d = .setAside o := by
  have hne : (contentKey == kindKey) = false := by decide
  simp only [addMember, toOption_eq_some_iff.mp hkey, bind_eq_ok_iff, Except.ok.injEq,
    exists_eq_left', hne, beq_self_eq_true, if_true, Bool.false_eq_true, if_false,
    (reads_check hheld).ok_iff ho, pure_eq_ok, exists_and_left, exists_const, eq_comm (a := d)]

/-- What was set aside is read when its kind is known. -/
lemma addMember_late (hopens : r.Opens)
    (h : ∀ kind, Reads { r with held := true } kind.dataReader (content kind))
    (hkey : key.text.toOption = some kindKey) (ho : o.tree? = some t)
    (haside : aside.tree? = some c) (place : Nat) :
    addMember r (.setAside aside) (key, o) place = .ok d ↔
      ∃ kind, ResultKind.Named t kind ∧ ∃ data, content kind c data ∧ d = .whole data := by
  simp only [addMember, toOption_eq_some_iff.mp hkey, bind_eq_ok_iff, Except.ok.injEq,
    exists_eq_left', beq_self_eq_true, if_true, (ResultKind.reads_named hopens).ok_iff ho,
    readAside, mapError_eq_ok_iff, (h _).ok_iff haside, pure_eq_ok, eq_comm (a := d)]

lemma addMember_second_kind (hkey : key.text.toOption = some kindKey)
    (hdraft : ∀ aside, draft ≠ .setAside aside) (hblank : draft ≠ .blank) (place : Nat) :
    addMember r draft (key, o) place ≠ .ok d := by
  cases draft with
  | blank => exact absurd rfl hblank
  | setAside aside => exact absurd rfl (hdraft aside)
  | _ => simp [addMember, toOption_eq_some_iff.mp hkey]

lemma addMember_second_content (hkey : key.text.toOption = some contentKey)
    (hdraft : ∀ kind, draft ≠ .ofKind kind) (hblank : draft ≠ .blank) (place : Nat) :
    addMember r draft (key, o) place ≠ .ok d := by
  have hne : contentKey ≠ kindKey := by decide
  cases draft with
  | blank => exact absurd rfl hblank
  | ofKind kind => exact absurd rfl (hdraft kind)
  | _ => simp [addMember, toOption_eq_some_iff.mp hkey, hne]

end Marked

/-- After the kind and the content no member matters. -/
lemma addMembers_whole_iff (h : SayMembers members ms) {data : ResultSet} :
    addMembers r closing (.whole data) members = .ok d ↔
      (∀ m ∈ ms, Other m.1) ∧ d = .whole data := by
  rcases others_or_first ms with hothers | ⟨key, t, after, hfirst, hkey⟩
  · rw [addMembers_others h hothers, Except.ok.injEq, eq_comm, iff_and_self]
    exact fun _ => hothers
  · obtain ⟨member, place, rest, htext, -, -, hmembers⟩ := addMembers_first h hfirst
    rw [hmembers, bind_eq_ok_iff]
    refine iff_of_false ?_ fun h => hfirst.not_others hkey h.1
    rintro ⟨next, hnext, -⟩
    rcases key_cases hkey with rfl | rfl | rfl
    · exact addMember_undecoded htext place hnext
    · exact addMember_second_kind htext (by simp) (by simp) place hnext
    · exact addMember_second_content htext (by simp) (by simp) place hnext

/-- After the kind its content follows. -/
lemma addMembers_ofKind_iff (h : SayMembers members ms) (hroom : r.Roomy 4) {kind : ResultKind}
    {data : ResultSet} :
    addMembers r closing (.ofKind kind) members = .ok (.whole data) ↔
      ∃ c after, First (some contentKey) c after ms ∧ (∀ m ∈ after, Other m.1) ∧
        kind.Content c data := by
  rcases others_or_first ms with hothers | ⟨key, t, after, hfirst, hkey⟩
  · rw [addMembers_others h hothers]
    refine iff_of_false (by simp) ?_
    rintro ⟨c, after, hfirst, -⟩
    exact hfirst.not_others not_other_contentKey hothers
  · obtain ⟨member, place, rest, htext, ht, hrest, hmembers⟩ := addMembers_first h hfirst
    rw [hmembers, bind_eq_ok_iff]
    constructor
    · rintro ⟨next, hnext, hafter⟩
      rcases key_cases hkey with rfl | rfl | rfl
      · exact absurd hnext (addMember_undecoded htext place)
      · exact absurd hnext (addMember_second_kind htext (by simp) (by simp) place)
      · obtain ⟨data', hdata, rfl⟩ :=
          (addMember_content (kind.reads_content hroom) htext ht place).mp hnext
        obtain ⟨hothers, heq⟩ := (addMembers_whole_iff hrest).mp hafter
        cases heq
        exact ⟨t, after, hfirst, hothers, hdata⟩
    · rintro ⟨c, after', hcontent, hothers, hdata⟩
      obtain ⟨rfl, rfl, rfl⟩ := hfirst.unique hkey hcontent not_other_contentKey
      exact ⟨_,
        (addMember_content (kind.reads_content hroom) htext ht place).mpr ⟨data, hdata, rfl⟩,
        (addMembers_whole_iff hrest).mpr ⟨hothers, rfl⟩⟩

/-- After content the kind follows. -/
lemma addMembers_setAside_iff (h : SayMembers members ms) (hopens : r.Opens) {aside : Outline}
    {c : Tree} (haside : aside.tree? = some c) {data : ResultSet} :
    addMembers r closing (.setAside aside) members = .ok (.whole data) ↔
      ∃ k after kind, First (some kindKey) k after ms ∧ (∀ m ∈ after, Other m.1) ∧
        ResultKind.Named k kind ∧ kind.Content c data := by
  have hcontent : ∀ kind : ResultKind, Reads { r with held := true } kind.dataReader kind.Content :=
    fun kind => kind.reads_content (.inl rfl)
  rcases others_or_first ms with hothers | ⟨key, t, after, hfirst, hkey⟩
  · rw [addMembers_others h hothers]
    refine iff_of_false (by simp) ?_
    rintro ⟨k, after, kind, hfirst, -⟩
    exact hfirst.not_others not_other_kindKey hothers
  · obtain ⟨member, place, rest, htext, ht, hrest, hmembers⟩ := addMembers_first h hfirst
    rw [hmembers, bind_eq_ok_iff]
    constructor
    · rintro ⟨next, hnext, hafter⟩
      rcases key_cases hkey with rfl | rfl | rfl
      · exact absurd hnext (addMember_undecoded htext place)
      · obtain ⟨kind, hkind, data', hdata, rfl⟩ :=
          (addMember_late hopens hcontent htext ht haside place).mp hnext
        obtain ⟨hothers, heq⟩ := (addMembers_whole_iff hrest).mp hafter
        cases heq
        exact ⟨t, after, kind, hfirst, hothers, hkind, hdata⟩
      · exact absurd hnext (addMember_second_content htext (by simp) (by simp) place)
    · rintro ⟨k, after', kind, hsecond, hothers, hkind, hdata⟩
      obtain ⟨rfl, rfl, rfl⟩ := hfirst.unique hkey hsecond not_other_kindKey
      exact ⟨_,
        (addMember_late hopens hcontent htext ht haside place).mpr ⟨kind, hkind, data, hdata, rfl⟩,
        (addMembers_whole_iff hrest).mpr ⟨hothers, rfl⟩⟩

/-- The members of an object make data just if they mean it. -/
lemma addMembers_blank_iff (h : SayMembers members ms) (hheld : r.held = false) (hroom : r.Roomy 4)
    {data : ResultSet} :
    addMembers r closing .blank members = .ok (.whole data) ↔
      MeansData (r.depth - 1) ResultKind.Content (.object ms) data := by
  have hopens := hroom.opens (by omega)
  rcases others_or_first ms with hothers | ⟨key, t, after, hfirst, hkey⟩
  · rw [addMembers_others h hothers]
    refine iff_of_false (by simp) fun h => ?_
    cases h with
    | kindFirst hfirst _ _ _ _ => exact hfirst.not_others not_other_kindKey hothers
    | contentFirst hfirst _ _ _ _ _ => exact hfirst.not_others not_other_contentKey hothers
  · obtain ⟨member, place, rest, htext, ht, hrest, hmembers⟩ := addMembers_first h hfirst
    rw [hmembers, bind_eq_ok_iff]
    constructor
    · rintro ⟨next, hnext, hafter⟩
      rcases key_cases hkey with rfl | rfl | rfl
      · exact absurd hnext (addMember_undecoded htext place)
      · obtain ⟨kind, hkind, rfl⟩ := (addMember_kind hopens htext ht place).mp hnext
        obtain ⟨c, after', hsecond, hothers, hdata⟩ := (addMembers_ofKind_iff hrest hroom).mp hafter
        exact .kindFirst hfirst hsecond hothers hkind hdata
      · obtain ⟨hkept, rfl⟩ := (addMember_aside hheld htext ht place).mp hnext
        obtain ⟨k, after', kind, hsecond, hothers, hkind, hdata⟩ :=
          (addMembers_setAside_iff hrest hopens ht).mp hafter
        exact .contentFirst hfirst hsecond hothers hkind hkept hdata
    · intro h
      cases h with
      | kindFirst hfirst' hsecond hothers hkind hdata =>
        obtain ⟨rfl, rfl, rfl⟩ := hfirst.unique hkey hfirst' not_other_kindKey
        exact ⟨_, (addMember_kind hopens htext ht place).mpr ⟨_, hkind, rfl⟩,
          (addMembers_ofKind_iff hrest hroom).mpr ⟨_, _, hsecond, hothers, hdata⟩⟩
      | contentFirst hfirst' hsecond hothers hkind hkept hdata =>
        obtain ⟨rfl, rfl, rfl⟩ := hfirst.unique hkey hfirst' not_other_contentKey
        exact ⟨_, (addMember_aside hheld htext ht place).mpr ⟨hkept, rfl⟩,
          (addMembers_setAside_iff hrest hopens ht).mpr ⟨_, _, _, hsecond, hothers, hkind, hdata⟩⟩

/-- A member that was taken has no fault. -/
lemma tree?_of_addMember (hheld : r.held = false) (hroom : r.Roomy 4) {member : Key × Outline}
    {place : Nat} (h : addMember r draft member place = .ok d) : ∃ t, member.2.tree? = some t := by
  obtain ⟨key, o⟩ := member
  have hkinds := ResultKind.reads_named (hroom.opens (by omega))
  simp only [addMember, bind_eq_ok_iff, hheld, Bool.false_eq_true, if_false] at h
  obtain ⟨name, -, h⟩ := h
  split_ifs at h with hkind hcontent
  · cases draft with
    | blank =>
      obtain ⟨kind, hread, -⟩ := bind_eq_ok_iff.mp h
      exact hkinds.whole hheld hread
    | setAside aside =>
      obtain ⟨kind, hread, -⟩ := bind_eq_ok_iff.mp h
      exact hkinds.whole hheld hread
    | _ => cases h
  · cases draft with
    | blank =>
      obtain ⟨done, hcheck, -⟩ := bind_eq_ok_iff.mp h
      exact (reads_check hheld).whole hheld hcheck
    | ofKind kind =>
      obtain ⟨data, hread, -⟩ := bind_eq_ok_iff.mp h
      exact (kind.reads_content hroom).whole hheld hread
    | _ => cases h
  · cases hskip : o.skipFailure with
    | none => exact (Outline.skipFailure_eq_none_iff o).mp hskip
    | some failure =>
      rw [hskip] at h
      cases h

lemma tree?_of_addMembers (hheld : r.held = false) (hroom : r.Roomy 4)
    (h : addMembers r closing draft members = .ok d) : ∀ m ∈ members, ∃ t, m.2.tree? = some t := by
  induction members generalizing draft with
  | nil => exact fun _ hm => absurd hm List.not_mem_nil
  | cons member members ih =>
    obtain ⟨place, hcons⟩ := addMembers_cons r closing member members
    obtain ⟨next, hnext, h⟩ := bind_eq_ok_iff.mp ((hcons draft).symm.trans h)
    exact List.forall_mem_cons.mpr ⟨tree?_of_addMember hheld hroom hnext, ih h⟩

end Members

/-! ### Reading data -/

section Reading

variable {r : Reading} {start : Nat} {closing : Except Fault Nat} {data : ResultSet}

lemma reader_object_eq_ok_iff {members : List (Key × Outline)} :
    ResultSet.reader r (.object start members closing) = .ok data ↔
      r.Opens ∧ addMembers r.inner closing .blank members = .ok (.whole data) ∧
      ∃ stop, closing = .ok stop := by
  simp only [ResultSet.reader, bind_eq_ok_iff, Reading.enter_eq_ok_iff]
  constructor
  · rintro ⟨inner, ⟨hopens, rfl⟩, draft, hmembers, h⟩
    cases closing with
    | error fault => cases h
    | ok stop =>
      cases draft with
      | whole data' =>
        cases h
        exact ⟨hopens, hmembers, stop, rfl⟩
      | _ => cases h
  · rintro ⟨hopens, hmembers, stop, rfl⟩
    exact ⟨r.inner, ⟨hopens, rfl⟩, .whole data, hmembers, rfl⟩

lemma reader_list_eq_ok_iff {items : List Outline} :
    ResultSet.reader r (.list start items closing) = .ok data ↔
      r.Opens ∧
      (∃ k c kind, items = [k, c] ∧ ResultKind.reader r.inner k = .ok kind ∧
         kind.dataReader r.inner c = .ok data) ∧
      ∃ stop, closing = .ok stop := by
  simp only [ResultSet.reader, bind_eq_ok_iff, Reading.enter_eq_ok_iff]
  constructor
  · rintro ⟨inner, ⟨hopens, rfl⟩, h⟩
    obtain _ | ⟨k, _ | ⟨c, rest⟩⟩ := items
    · exact absurd h tooShort_ne_ok
    · obtain ⟨kind, -, h⟩ := bind_eq_ok_iff.mp h
      exact absurd h tooShort_ne_ok
    · simp only [bind_eq_ok_iff, overrun_eq_ok_iff] at h
      obtain ⟨kind, hkind, data', hdata, -, ⟨hdrop, hclosing⟩, heq⟩ := h
      cases heq
      simp only [List.drop_succ_cons, List.drop_zero] at hdrop
      subst hdrop
      exact ⟨hopens, ⟨k, c, kind, rfl, hkind, hdata⟩, hclosing⟩
  · rintro ⟨hopens, ⟨k, c, kind, rfl, hkind, hdata⟩, hclosing⟩
    refine ⟨r.inner, ⟨hopens, rfl⟩, ?_⟩
    simp only [bind_eq_ok_iff, overrun_eq_ok_iff]
    exact ⟨kind, hkind, data, hdata, (), ⟨rfl, hclosing⟩, rfl⟩

lemma reader_list_iff (hroom : r.Roomy 5) {items : List Outline} {ts : List Tree} {stop depth : Nat}
    (hitems : List.Forall₂ (fun o t => o.tree? = some t) items ts) :
    ResultSet.reader r (.list start items (.ok stop)) = .ok data ↔
      MeansData depth ResultKind.Content (.list ts) data := by
  have hkinds := ResultKind.reads_named (hroom.inner.opens (by omega))
  have hcontent : ∀ kind : ResultKind, Reads r.inner kind.dataReader kind.Content :=
    fun kind => kind.reads_content hroom.inner
  rw [reader_list_eq_ok_iff]
  constructor
  · rintro ⟨-, ⟨k, c, kind, rfl, hkind, hdata⟩, -⟩
    obtain ⟨x, ts, hx, hrest, rfl⟩ := List.forall₂_cons_left_iff.mp hitems
    obtain ⟨y, ts, hy, hnil, rfl⟩ := List.forall₂_cons_left_iff.mp hrest
    cases hnil
    exact .list ((hkinds.ok_iff hx _).mp hkind) (((hcontent kind).ok_iff hy _).mp hdata)
  · intro h
    cases h with
    | list hkind hdata =>
      obtain ⟨k, items, hk, hrest, rfl⟩ := List.forall₂_cons_right_iff.mp hitems
      obtain ⟨c, items, hc, hnil, rfl⟩ := List.forall₂_cons_right_iff.mp hrest
      cases hnil
      exact ⟨hroom.opens (by omega),
        ⟨k, c, _, rfl, (hkinds.ok_iff hk _).mpr hkind, ((hcontent _).ok_iff hc _).mpr hdata⟩, stop,
        rfl⟩

/-- An outline that data was read from has no fault. -/
lemma tree?_of_reader (hheld : r.held = false) (hroom : r.Roomy 5) {o : Outline}
    (h : ResultSet.reader r o = .ok data) : ∃ t, o.tree? = some t := by
  have hinner : r.inner.held = false := by rw [Reading.held_inner, hheld]
  cases o with
  | object start members closing =>
    obtain ⟨-, hmembers, stop, rfl⟩ := reader_object_eq_ok_iff.mp h
    obtain ⟨ms, hms⟩ := memberTrees?_of_whole (tree?_of_addMembers hinner hroom.inner hmembers)
    exact ⟨.object ms, by rw [Outline.tree?, hms, Option.map_some]⟩
  | list start items closing =>
    obtain ⟨-, ⟨k, c, kind, rfl, hkind, hdata⟩, stop, rfl⟩ := reader_list_eq_ok_iff.mp h
    obtain ⟨x, hx⟩ := (ResultKind.reads_named (hroom.inner.opens (by omega))).whole hinner hkind
    obtain ⟨y, hy⟩ := (kind.reads_content hroom.inner).whole hinner hdata
    exact ⟨.list [x, y], by simp [Outline.tree?, Outline.itemTrees?, hx, hy]⟩
  | _ => cases h

/-- The reader of data takes data for what it means. -/
theorem reads (hheld : r.held = false) (hroom : r.Roomy 5) :
    Reads r ResultSet.reader (MeansData (r.depth - 2) ResultKind.Content) where
  ok_iff ht data := by
    have hopens := hroom.opens (by omega)
    have hinner : r.inner.held = false := by rw [Reading.held_inner, hheld]
    have hdepth : r.inner.depth - 1 = r.depth - 2 := by rw [Reading.depth_inner hheld, Nat.sub_sub]
    cases Outline.tree?_eq_some_iff.mp ht with
    | object start stop hmembers =>
      rw [reader_object_eq_ok_iff, addMembers_blank_iff hmembers hinner hroom.inner, hdepth]
      simp [hopens]
    | list start stop hitems => exact reader_list_iff hroom hitems
    | _ =>
      simp only [ResultSet.reader, reduceCtorEq, false_iff]
      rintro ⟨⟩
  whole _ _ _ hread := tree?_of_reader hheld hroom hread

end Reading

end ResultSet

end ClusterCost
