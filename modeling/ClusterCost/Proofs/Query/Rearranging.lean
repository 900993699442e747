import ClusterCost.Proofs.Json.Changes
import ClusterCost.Proofs.Json.Writing
import ClusterCost.Proofs.Query.Replies
import Mathlib.Data.List.Permutation
import Mathlib.Logic.Relation

/-!
# The order of the members of an answer

The members of an envelope, of its data and of a series may be in any order, and the envelope and
the data may have members that nothing knows. What is read is the same
(`Envelope.decode_rearranged`), also where the content of data comes before its kind and so is set
aside until the kind is known: as all of the content is read in the end, all of it can be kept.
-/

namespace ClusterCost

open Json

namespace ResultSet

/-! ### Changes to data -/

/-- The members of one series are put in another order. -/
inductive SeriesChange : Tree → Tree → Prop
  | series (before after : List Tree) {ms ms' : Members} (h : ms.Perm ms') :
      SeriesChange (.list (before ++ .object ms :: after)) (.list (before ++ .object ms' :: after))

/-- The members of data or of a series are put in another order, or a member that data
does not know is added. -/
def DataChange : Tree → Tree → Prop := Change [kindKey, contentKey] contentKey SeriesChange

/-- A series has no other members than its labels and its one sample, or its labels and
its samples. -/
def PlainSeries (ms : Members) : Prop :=
  ∃ key ∈ ["value", "values"], ∀ m ∈ ms, m.1 = some "metric" ∨ m.1 = some key

/-- All series in a list are plain. -/
def PlainContent (t : Tree) : Prop :=
  ∀ items, t = .list items → ∀ ms, .object ms ∈ items → PlainSeries ms

lemma PlainSeries.perm {ms ms' : Members} (hperm : ms.Perm ms') (h : PlainSeries ms) :
    PlainSeries ms' := by
  obtain ⟨key, hkey, hall⟩ := h
  exact ⟨key, hkey, fun m hm => hall m (hperm.mem_iff.mpr hm)⟩

lemma SeriesChange.symm {t t' : Tree} (h : SeriesChange t t') : SeriesChange t' t := by
  cases h with
  | series before after h => exact .series before after h.symm

lemma PlainContent.change {t t' : Tree} (h : SeriesChange t t') (hplain : PlainContent t) :
    PlainContent t' := by
  cases h with
  | @series before after ms ms' hperm =>
    rintro _ ⟨⟩ other hother
    have hmem := hplain _ rfl
    simp only [List.mem_append, List.mem_cons, Tree.object.injEq] at hmem hother
    rcases hother with hother | rfl | hother
    · exact hmem other (.inl hother)
    · exact (hmem ms (.inr (.inl rfl))).perm hperm
    · exact hmem other (.inr (.inr hother))

/-! ### Changes to content -/

section Content

variable {α : Type} {key : String} {blank : α} {content : Tree → α → Prop} {t t' : Tree}
  {before after : List Tree} {ms ms' : Members}

lemma meansList_middle_iff {means : Tree → α → Prop} {x y : Tree} (h : ∀ a, means x a ↔ means y a)
    {as : List α} :
    MeansList means (.list (before ++ x :: after)) as ↔
      MeansList means (.list (before ++ y :: after)) as := by
  simp only [MeansList, Tree.list.injEq, exists_eq_left']
  induction before generalizing as with
  | nil => simp only [List.nil_append, List.forall₂_cons_left_iff, h]
  | cons t before ih => simp only [List.cons_append, List.forall₂_cons_left_iff, ih]

/-- No item of a sample is an object. -/
lemma not_sample (raw : RawSample) :
    ¬ RawSample.Means (.list (before ++ .object ms :: after)) raw := by
  rintro ⟨x, y, heq, ⟨n, rfl, -⟩, htext⟩
  cases htext
  have hmem : Tree.object ms ∈ [.number (some n), .text (some raw.2)] := by
    rw [← Tree.list.inj heq]
    simp
  simp at hmem

lemma shows_change_iff {kind : ResultKind} {series : List RawSeries} (h : SeriesChange t t') :
    kind.Shows t series ↔ kind.Shows t' series := by
  cases h with
  | @series before after ms ms' hperm =>
    cases kind with
    | vector =>
      exact exists_congr fun ws =>
        and_congr_left fun _ => meansList_middle_iff fun w => meansRecord_perm_iff hperm
    | matrix => exact meansList_middle_iff fun w => meansRecord_perm_iff hperm
    | scalar => simp only [ResultKind.Shows, not_sample, false_and, exists_false]
    | text => simp only [ResultKind.Shows, not_sample, false_and, exists_false]

/-! ### Content that can be kept -/

lemma kept_sample {raw : RawSample} (h : RawSample.Means t raw) : t.Kept 1 := by
  obtain ⟨x, y, rfl, ⟨n, rfl, -⟩, htext⟩ := h
  cases htext
  apply Tree.Kept.list
  simp only [List.forall_mem_cons, List.not_mem_nil, false_implies, implies_true, and_true]
  exact ⟨.number 0 n, .text 0 raw.2⟩

lemma kept_list {means : Tree → α → Prop} {room : Nat} {as : List α} (h : MeansList means t as)
    (hmeans : ∀ items, t = .list items → ∀ item ∈ items, ∀ a, means item a → item.Kept room) :
    t.Kept (room + 1) := by
  obtain ⟨items, rfl, hall⟩ := h
  apply Tree.Kept.list
  intro item hitem
  obtain ⟨a, -, ha⟩ := Forall₂.exists_of_mem hall hitem
  exact hmeans items rfl item hitem a ha

lemma kept_labels {labels : List (String × String)} (h : MeansMembers MeansText t labels) :
    t.Kept 1 := by
  obtain ⟨ms, rfl, hall⟩ := h
  have hmember : ∀ m ∈ ms, ∃ label : String × String, m = (some label.1, .text (some label.2)) := by
    intro m hm
    obtain ⟨label, -, hkey, hvalue⟩ := Forall₂.exists_of_mem hall hm
    exact ⟨label, Prod.ext hkey hvalue⟩
  refine .object (fun m hm => ?_) fun m hm => ?_ <;> obtain ⟨label, rfl⟩ := hmember m hm
  · exact Option.some_ne_none _
  · exact .text 0 _

/-- A series without other members can be kept, since all of its members are read. -/
lemma kept_series {room : Nat} (hroom : 1 ≤ room) (hkey : key ∈ ["value", "values"])
    (hcontent : ∀ t a, content t a → t.Kept room) {w : Written α}
    (h : Written.Means key blank content t w) (hplain : ∀ ms, t = .object ms → PlainSeries ms) :
    t.Kept (room + 1) := by
  refine MeansRecord.kept h ?_ ?_
  · simp only [Written.parts, List.forall_mem_cons, List.not_mem_nil, false_implies,
      implies_true, and_true]
    refine ⟨?_, ?_⟩
    · rintro t a b ⟨labels, hlabels, -⟩
      exact (kept_labels hlabels).mono hroom
    · rintro t a b ⟨x, hx, -⟩
      exact hcontent t x hx
  · rintro ms rfl m hm
    obtain ⟨other, -, hall⟩ := hplain ms rfl
    have hgiven := (meansRecord_object_iff.mp h).2
      (.of key .required content fun a s => { s with content := a }) (by simp [Written.parts]) rfl
    obtain ⟨m', hm', hname⟩ := List.mem_map.mp hgiven
    -- the content is given, so it is the member besides the labels
    have hother : some key = some other := by
      refine (hname ▸ hall m' hm').resolve_left fun heq => ?_
      obtain rfl : key = "metric" := Option.some.inj heq
      exact absurd hkey (by decide)
    rcases hall m hm with hmetric | hmember
    · exact ⟨_, List.mem_cons_self, hmetric⟩
    · exact ⟨_, List.mem_cons_of_mem _ List.mem_cons_self, hmember.trans hother.symm⟩

lemma kept_all {room : Nat} (hroom : 1 ≤ room) (hkey : key ∈ ["value", "values"])
    (hcontent : ∀ t a, content t a → t.Kept room) {ws : List (Written α)}
    (h : MeansList (Written.Means key blank content) t ws) (hplain : PlainContent t) :
    t.Kept (room + 2) := by
  refine kept_list h fun items ht item hitem w hw => kept_series hroom hkey hcontent hw ?_
  rintro ms rfl
  exact hplain items ht ms hitem

/-- Whatever is read from content with plain series can be kept. -/
lemma kept_shows {kind : ResultKind} {series : List RawSeries} (h : kind.Shows t series)
    (hplain : PlainContent t) : t.Kept 4 := by
  cases kind with
  | vector =>
    obtain ⟨ws, hws, -⟩ := h
    have hkept := kept_all le_rfl (by decide) (fun t raw hraw => kept_sample hraw) hws hplain
    exact hkept.mono (by decide)
  | matrix =>
    have hsamples : ∀ t raws, MeansList RawSample.Means t raws → t.Kept 2 := fun t raws hraws =>
      kept_list hraws fun _ _ _ _ _ hraw => kept_sample hraw
    exact kept_all (by decide) (by decide) hsamples h hplain
  | scalar =>
    obtain ⟨sample, hsample, -⟩ := h
    exact (kept_sample hsample).mono (by decide)
  | text =>
    obtain ⟨sample, hsample, -⟩ := h
    exact (kept_sample hsample).mono (by decide)

end Content

/-! ### The members that matter -/

section Marked

variable {β : Type} {room : Nat} {content : ResultKind → Tree → β → Prop} {b : β}
  {key : Option String} {t : Tree}
  {ms ms' after rest : Members}

instance : DecidablePred Other := fun _ => inferInstanceAs (Decidable (_ ∧ _))

/-- The members that matter, or whose key cannot be decoded. -/
def marked (ms : Members) : Members := ms.filter fun m => ¬ Other m.1

lemma marked_eq_nil_iff : marked ms = [] ↔ ∀ m ∈ ms, Other m.1 := by simp [marked]

lemma First.marked_eq (h : First key t after ms) (hkey : ¬ Other key) :
    marked ms = (key, t) :: marked after := by
  induction h with
  | here => simp [marked, hkey]
  | later hm _ ih => simpa [marked, hm] using ih

lemma exists_first (h : marked ms = (key, t) :: rest) :
    ∃ after, First key t after ms ∧ marked after = rest := by
  induction ms with
  | nil => cases h
  | cons m ms ih =>
    by_cases hm : Other m.1
    · obtain ⟨after, hfirst, hrest⟩ := ih (by simpa [marked, hm] using h)
      exact ⟨after, .later hm hfirst, hrest⟩
    · rw [marked, List.filter_cons_of_pos (by simpa using hm)] at h
      cases h
      exact ⟨ms, .here, rfl⟩

/-- Data in an object has two members that matter: its kind and its content, in either order. -/
lemma meansData_object_iff : MeansData room content (.object ms) b ↔
    ∃ k c kind, ResultKind.Named k kind ∧ content kind c b ∧
      (marked ms = [(some kindKey, k), (some contentKey, c)] ∨
       marked ms = [(some contentKey, c), (some kindKey, k)] ∧ c.Kept room) := by
  constructor
  · intro h
    cases h with
    | @kindFirst _ between after k c kind _ hfirst hsecond hafter hkind hcontent =>
      refine ⟨k, c, kind, hkind, hcontent, .inl ?_⟩
      rw [hfirst.marked_eq not_other_kindKey, hsecond.marked_eq not_other_contentKey,
        marked_eq_nil_iff.mpr hafter]
    | @contentFirst _ between after k c kind _ hfirst hsecond hafter hkind hkept hcontent =>
      refine ⟨k, c, kind, hkind, hcontent, .inr ⟨?_, hkept⟩⟩
      rw [hfirst.marked_eq not_other_contentKey, hsecond.marked_eq not_other_kindKey,
        marked_eq_nil_iff.mpr hafter]
  · rintro ⟨k, c, kind, hkind, hcontent, h | ⟨h, hkept⟩⟩
    · obtain ⟨between, hfirst, h⟩ := exists_first h
      obtain ⟨after, hsecond, h⟩ := exists_first h
      exact .kindFirst hfirst hsecond (marked_eq_nil_iff.mp h) hkind hcontent
    · obtain ⟨between, hfirst, h⟩ := exists_first h
      obtain ⟨after, hsecond, h⟩ := exists_first h
      exact .contentFirst hfirst hsecond (marked_eq_nil_iff.mp h) hkind hkept hcontent

/-- Where content can be kept, the order does not matter. -/
lemma meansData_plain_iff
    (hkept : ∀ c kind, (some contentKey, c) ∈ ms → content kind c b → c.Kept room) :
    MeansData room content (.object ms) b ↔
      ∃ k c kind, ResultKind.Named k kind ∧ content kind c b ∧
        (marked ms).Perm [(some kindKey, k), (some contentKey, c)] := by
  rw [meansData_object_iff]
  refine exists_congr fun k =>
    exists_congr fun c =>
    exists_congr fun kind => and_congr_right fun _ => and_congr_right fun hcontent => ?_
  rw [List.perm_pair]
  refine or_congr_right (and_iff_left_of_imp fun h => hkept c kind ?_ hcontent)
  have hmem : (some contentKey, c) ∈ marked ms := by simp [h]
  exact List.mem_of_mem_filter hmem

lemma meansData_list_iff {ts : List Tree} : MeansData room content (.list ts) b ↔
    ∃ k c kind, ts = [k, c] ∧ ResultKind.Named k kind ∧ content kind c b := by
  constructor
  · intro h
    cases h with
    | list hkind hcontent => exact ⟨_, _, _, rfl, hkind, hcontent⟩
  · rintro ⟨k, c, kind, rfl, hkind, hcontent⟩
    exact .list hkind hcontent

end Marked

/-! ### Data -/

section Data

variable {t t' : Tree} {ms ms' : Members} {series : List RawSeries}

/-- All series of data are plain. -/
def PlainData : Tree → Prop := Within contentKey PlainContent

lemma DataChange.plain_iff (h : DataChange t t') : PlainData t ↔ PlainData t' :=
  Change.within_iff h (by decide) fun _ _ hchange => ⟨.change hchange, .change hchange.symm⟩

lemma showsData_object_iff (hplain : PlainData (.object ms)) : ShowsData (.object ms) series ↔
    ∃ k c kind, ResultKind.Named k kind ∧ kind.Shows c series ∧
      (marked ms).Perm [(some kindKey, k), (some contentKey, c)] :=
  meansData_plain_iff fun c _ hmem hshows =>
    (kept_shows hshows (hplain (some contentKey, c) hmem rfl)).mono (by decide)

lemma showsData_perm_iff (hperm : ms.Perm ms') (hplain : PlainData (.object ms)) :
    ShowsData (.object ms) series ↔ ShowsData (.object ms') series := by
  have hmarked : (marked ms).Perm (marked ms') := hperm.filter _
  rw [showsData_object_iff hplain,
    showsData_object_iff ((DataChange.plain_iff (.order hperm)).mp hplain)]
  simp only [hmarked.congr_left]

lemma showsData_content_iff (hplain : PlainData (.object ((some contentKey, t) :: ms))) :
    ShowsData (.object ((some contentKey, t) :: ms)) series ↔
      ∃ k kind, ResultKind.Named k kind ∧ kind.Shows t series ∧
        marked ms = [(some kindKey, k)] := by
  have hmarked : marked ((some contentKey, t) :: ms) = (some contentKey, t) :: marked ms := by
    simp [marked, not_other_contentKey]
  have hkeys : (some kindKey : Option String) ≠ some contentKey := by decide
  rw [showsData_object_iff hplain, hmarked]
  constructor
  · rintro ⟨k, c, kind, hkind, hshows, hperm⟩
    obtain rfl : t = c := by simpa [hkeys.symm] using hperm.mem_iff.mp List.mem_cons_self
    have hrest := (hperm.trans (List.Perm.swap _ _ _)).cons_inv
    exact ⟨k, kind, hkind, hshows, List.perm_singleton.mp hrest⟩
  · rintro ⟨k, kind, hkind, hshows, hrest⟩
    exact ⟨k, t, kind, hkind, hshows, hrest ▸ List.Perm.swap _ _ _⟩

/-- What data shows does not depend on the order of its members and of those of its series, and not
on members that it does not know. -/
theorem showsData_change_iff (h : DataChange t t') (hplain : PlainData t) :
    ShowsData t series ↔ ShowsData t' series := by
  have hplain' := (DataChange.plain_iff h).mp hplain
  cases h with
  | order hperm => exact showsData_perm_iff hperm hplain
  | @unknown before after name hname t =>
    have hother : Other (some name) := by simpa [Other] using hname
    have hmarked : marked (before ++ (some name, t) :: after) = marked (before ++ after) := by
      simp [marked, hother]
    rw [showsData_object_iff hplain, showsData_object_iff hplain', hmarked]
  | @inside before after t t' h =>
    have hfront : ∀ t, PlainData (.object (before ++ (some contentKey, t) :: after)) →
        (ShowsData (.object (before ++ (some contentKey, t) :: after)) series ↔
          ∃ k kind, ResultKind.Named k kind ∧ kind.Shows t series ∧
            marked (before ++ after) = [(some kindKey, k)]) := by
      intro t hplain
      rw [showsData_perm_iff List.perm_middle hplain]
      exact showsData_content_iff ((DataChange.plain_iff (.order List.perm_middle)).mp hplain)
    rw [hfront t hplain, hfront t' hplain']
    simp only [shows_change_iff h]
  | @item first rest t t' h =>
    rw [ShowsData, meansData_list_iff, meansData_list_iff]
    simp only [List.cons.injEq]
    constructor
    · rintro ⟨k, c, kind, ⟨rfl, rfl, rfl⟩, hkind, hshows⟩
      exact ⟨first, t', kind, ⟨rfl, rfl, rfl⟩, hkind, (shows_change_iff h).mp hshows⟩
    · rintro ⟨k, c, kind, ⟨rfl, rfl, rfl⟩, hkind, hshows⟩
      exact ⟨first, t, kind, ⟨rfl, rfl, rfl⟩, hkind, (shows_change_iff h).mpr hshows⟩

end Data

end ResultSet

/-! ### Replies -/

namespace Reply

variable {t t' : Tree} {reply : Reply}

/-- The members of an envelope, of its data or of a series are put in another order, or a member
that the envelope or the data does not know is added. -/
def Change : Tree → Tree → Prop :=
  Json.Change ["status", "data", "errorType", "error"] "data" ResultSet.DataChange

/-- All series of an answer are plain. -/
def Plain : Tree → Prop := Within "data" ResultSet.PlainData

lemma meansOptional_iff {α : Type} {means : Tree → α → Prop} (ht : t ≠ .null) {a : Option α} :
    MeansOptional means t a ↔ ∃ x, means t x ∧ a = some x := by
  cases t with
  | null => exact absurd rfl ht
  | _ => rfl

lemma optional_change_iff (h : ResultSet.DataChange t t') (hplain : ResultSet.PlainData t)
    (a : Option (List RawSeries)) : MeansOptional ShowsData t a ↔ MeansOptional ShowsData t' a := by
  have ht : t ≠ .null ∧ t' ≠ .null := by cases h <;> simp
  rw [meansOptional_iff ht.1, meansOptional_iff ht.2]
  simp only [ResultSet.showsData_change_iff h hplain]

lemma means_change_iff (h : Change t t') (hplain : Plain t) : Means t reply ↔ Means t' reply := by
  refine meansRecord_change_iff (by decide) ?_ h hplain
  intro t t' hchange hdata a b
  simp only [Portion.of, optional_change_iff hchange hdata]

/-- Any number of changes, also the other way round, leave plain what is plain, and
what it means. -/
theorem means_rearranged_iff (h : Relation.EqvGen Change t t') :
    (Plain t ↔ Plain t') ∧ (Plain t → ∀ reply, Means t reply ↔ Means t' reply) := by
  induction h with
  | rel t t' h =>
    have hplain : Plain t ↔ Plain t' :=
      Change.within_iff h (by decide) fun _ _ hchange => ResultSet.DataChange.plain_iff hchange
    exact ⟨hplain, fun hplain reply => means_change_iff h hplain⟩
  | refl t => exact ⟨Iff.rfl, fun _ _ => Iff.rfl⟩
  | symm t t' _ ih => exact ⟨ih.1.symm, fun hplain reply => (ih.2 (ih.1.mpr hplain) reply).symm⟩
  | trans t u t' _ _ ih ih' =>
    exact ⟨ih.1.trans ih'.1,
      fun hplain reply => (ih.2 hplain reply).trans (ih'.2 (ih.1.mp hplain) reply)⟩

end Reply

/-! ### Decoding -/

/-- A text is refused as no envelope. -/
def Envelope.Refused (body : String) : Prop :=
  ∃ refusal, Envelope.decode body = .error (.decode (.malformed refusal))

/-- Texts that say the same up to the order of members and to unknown members are
decoded to the same rows or the same error, or both are refused. So the one is decoded
to rows just if the other is. -/
theorem Envelope.decode_rearranged {body body' : String} {t t' : Tree}
    (hsaid : Says (Utf8.encode body) t)
    (hsaid' : Says (Utf8.encode body') t') (hplain : Reply.Plain t)
    (h : Relation.EqvGen Reply.Change t t') :
    (Envelope.decode body = Envelope.decode body' ∨
     Envelope.Refused body ∧ Envelope.Refused body') ∧
      ∀ rows, Envelope.decode body = .ok rows ↔ Envelope.decode body' = .ok rows := by
  have hmeans := (Reply.means_rearranged_iff h).2 hplain
  have hcases : Envelope.decode body = Envelope.decode body' ∨
      Envelope.Refused body ∧ Envelope.Refused body' := by
    by_cases hreply : ∃ reply, Reply.Means t reply
    · obtain ⟨reply, hreply⟩ := hreply
      left
      rw [Envelope.decode_of_reply ⟨t, hsaid, hreply⟩,
        Envelope.decode_of_reply ⟨t', hsaid', (hmeans reply).mp hreply⟩]
    · have hnone : ∀ reply, ¬ Reply.Means t reply := not_exists.mp hreply
      refine .inr ⟨Envelope.decode_of_none ?_, Envelope.decode_of_none ?_⟩
      · rintro reply ⟨u, hu, hreply⟩
        exact hnone reply (hsaid.unique hu ▸ hreply)
      · rintro reply ⟨u, hu, hreply⟩
        exact hnone reply ((hmeans reply).mpr (hsaid'.unique hu ▸ hreply))
  refine ⟨hcases, fun rows => ?_⟩
  rcases hcases with heq | ⟨⟨refusal, hrefusal⟩, ⟨refusal', hrefusal'⟩⟩
  · rw [heq]
  · rw [hrefusal, hrefusal']
    exact iff_of_false (by simp) (by simp)

/-- The content comes before its kind, the samples of a series before its labels, and
there are unknown members. -/
theorem Envelope.decode_rearranged_matrix :
    let usual : Json.Value :=
      .object
        [("status", .text "success"),
         ("data", .object
           [("resultType", .text "matrix"),
            ("result",
             .list [.object [("metric", .object [("a", .text "x")]), ("values", .list [])]])])]
    let other : Json.Value :=
      .object
        [("warnings", .null),
         ("data", .object
           [("result",
             .list [.object [("values", .list []), ("metric", .object [("a", .text "x")])]]),
            ("stats", .object []), ("resultType", .text "matrix")]),
         ("status", .text "success")]
    ∃ row, Envelope.decode (Marked.decode usual.compact) = .ok [row] ∧
      Envelope.decode (Marked.decode other.compact) = .ok [row] ∧
      row.labels.get? "a" = some "x" := by
  intro usual other
  have husual : Says (Utf8.encode (Marked.decode usual.compact)) usual.tree := by
    have hbytes : Utf8.encode (Marked.decode usual.compact) = usual.compact := by decide +kernel
    rw [hbytes]
    exact Json.Value.text_compact (by
      simp [usual, Json.Value.NumberFree, Json.Value.NumberFreeMembers, Json.Value.NumberFreeItems])
  have hother : Says (Utf8.encode (Marked.decode other.compact)) other.tree := by
    have hbytes : Utf8.encode (Marked.decode other.compact) = other.compact := by decide +kernel
    rw [hbytes]
    exact Json.Value.text_compact (by
      simp [other, Json.Value.NumberFree, Json.Value.NumberFreeMembers, Json.Value.NumberFreeItems])
  have hread :
      ((Envelope.decode (Marked.decode usual.compact)).toOption.getD []).map (·.labels.get? "a") =
        [some "x"] := by
    decide +kernel
  have hcontent :
      ResultSet.PlainContent
        (.list
           [.object
              [(some "metric", .object [(some "a", .text (some "x"))]),
               (some "values", .list [])]]) := by
    rintro _ ⟨⟩ ms hms
    obtain rfl := by simpa using hms
    exact ⟨"values", by decide, by simp⟩
  have hplain : Reply.Plain usual.tree := by
    refine List.forall_mem_cons.mpr ⟨fun h => absurd h (by decide),
      List.forall_mem_singleton.mpr fun _ => ?_⟩
    exact List.forall_mem_cons.mpr ⟨fun h => absurd h (by decide),
      List.forall_mem_singleton.mpr fun _ => hcontent⟩
  have hchanges : Relation.EqvGen Reply.Change usual.tree other.tree := by
    have hinside : ∀ {d d' : Tree}, ResultSet.DataChange d d' →
        Relation.EqvGen Reply.Change
          (.object
             [(some "warnings", .null), (some "data", d), (some "status", .text (some "success"))])
          (.object [(some "warnings", .null), (some "data", d'),
            (some "status", .text (some "success"))]) :=
      fun h => .rel _ _ (.inside [_] [_] h)
    refine .trans _ _ _ (.rel _ _ (.order (List.Perm.swap _ _ _))) ?_
    have hwarnings : "warnings" ∉ ["status", "data", "errorType", "error"] := by decide
    refine .trans _ _ _ (.rel _ _ (.unknown [] _ hwarnings .null)) ?_
    refine .trans _ _ _ (hinside (.order (List.Perm.swap _ _ _))) ?_
    have hstats : "stats" ∉ ["resultType", "result"] := by decide
    refine .trans _ _ _ (hinside (.unknown [_] [_] hstats (.object []))) ?_
    exact hinside (.inside [] _ (.series [] [] (List.Perm.swap _ _ _)))
  have hdecode := (Envelope.decode_rearranged husual hother hplain hchanges).2
  cases hrows : Envelope.decode (Marked.decode usual.compact) with
  | error e => simp [hrows, Except.toOption] at hread
  | ok rows =>
    rw [hrows] at hread
    obtain ⟨row, rfl, hlabel⟩ := List.map_eq_singleton_iff.mp hread
    exact ⟨row, rfl, (hdecode [row]).mp hrows, hlabel⟩

end ClusterCost
