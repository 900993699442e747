import ClusterCost.Proofs.Json.Readers
import ClusterCost.Proofs.Json.Spacing
import ClusterCost.Proofs.Json.Writing
import ClusterCost.Proofs.Rates.Entries
import ClusterCost.Proofs.Rates.Store
import ClusterCost.Proofs.Text.Order
import ClusterCost.Rates.Provider

/-!
# What a body changes

A body makes an update just if it is a JSON text of an object whose members can be kept
(`CardUpdate.ofBody_eq_ok_iff`). `CardUpdate.Means` says what the update comes to in terms of the
last value of each name: either every name gives a text to a field, and of the names of one field
that one counts whose bytes are greatest, or the update is refused for the failing name whose bytes
are least. So the order of the members and the blanks between the tokens do not matter
(`Provider.update_of_body`).
-/

namespace ClusterCost

open Json (Reading Reads Says Tree)

namespace CardUpdate

/-! ### The members of a body -/

/-- A body is an object with these members. Each can be kept: its texts and numbers are values, and
it is nested no deeper than readers go. -/
structure Body.Holds (body : Body) (members : List (String × Tree)) : Prop where
  finished : body.ending = .finished
  text : Says body.bytes (.object (members.map fun m => (some m.1, m.2)))
  kept : ∀ m ∈ members, m.2.Kept 126

lemma reads_valueReader {r : Reading} (hheld : r.held = false) :
    Reads r valueReader fun t value => t.Kept (r.depth - 1) ∧ t.text? = value where
  ok_iff {o t} ht value := by
    have hcheck := (Json.reads_check hheld).ok_iff ht ()
    have hother : (o.check r).map (fun _ => none) = .ok value ↔
        t.Kept (r.depth - 1) ∧ none = value := by
      rw [map_eq_ok_iff]
      constructor
      · rintro ⟨done, hdone, rfl⟩
        exact ⟨hcheck.mp hdone, rfl⟩
      · rintro ⟨hkept, rfl⟩
        exact ⟨(), hcheck.mpr hkept, rfl⟩
    cases Json.Outline.tree?_eq_some_iff.mp ht with
    | text start stop given =>
      cases given with
      | ok s => simp [valueReader, Tree.text?, Except.toOption, Tree.Kept.text]
      | error failure => exact hother
    | _ => exact hother
  whole _ o value hread := by
    unfold valueReader at hread
    split at hread
    · exact ⟨_, rfl⟩
    · obtain ⟨done, hdone, -⟩ := map_eq_ok_iff.mp hread
      exact (Json.reads_check hheld).whole hheld hdone

lemma meansMembers_iff {t : Tree} {values : List (String × Option String)} {room : Nat} :
    Json.MeansMembers (fun t value => t.Kept room ∧ t.text? = value) t values ↔
      ∃ members : List (String × Tree), t = .object (members.map fun m => (some m.1, m.2)) ∧
        (∀ m ∈ members, m.2.Kept room) ∧
        values = members.map fun m => (m.1, m.2.text?) := by
  constructor
  · rintro ⟨ms, rfl, h⟩
    induction h with
    | nil => exact ⟨[], rfl, fun _ hm => absurd hm List.not_mem_nil, rfl⟩
    | @cons m value ms values hm hrest ih =>
      obtain ⟨k, tree⟩ := m
      obtain ⟨name, given⟩ := value
      obtain ⟨hname, hkept, hgiven⟩ := hm
      dsimp only at hname hkept hgiven
      subst hname hgiven
      obtain ⟨members, heq, hmembers, rfl⟩ := ih
      refine ⟨(name, tree) :: members, ?_, List.forall_mem_cons.mpr ⟨hkept, hmembers⟩, rfl⟩
      rw [Tree.object.injEq] at heq ⊢
      rw [heq, List.map_cons]
  · rintro ⟨members, rfl, hkept, rfl⟩
    refine ⟨_, rfl, ?_⟩
    rw [List.forall₂_map_left_iff, List.forall₂_map_right_iff, List.forall₂_same]
    exact fun m hm => ⟨rfl, hkept m hm, rfl⟩

/-- A body makes an update just if it is an object, and the update is that of its members. -/
theorem ofBody_eq_ok_iff {body : Body} {update : CardUpdate} :
    ofBody body = .ok update ↔
      ∃ members, body.Holds members ∧
        update = ofMembers (members.map fun m => (m.1, m.2.text?)) := by
  have hreads : Reads .streamed reader _ :=
    ((reads_valueReader (r := Reading.streamed.inner) rfl).members (.inr (by decide))).map ofMembers
  rw [ofBody, mapError_eq_ok_iff]
  cases hending : body.ending with
  | finished =>
    rw [hreads.document rfl]
    simp only [meansMembers_iff]
    constructor
    · rintro ⟨t, hsaid, values, ⟨members, rfl, hkept, rfl⟩, rfl⟩
      exact ⟨members, ⟨hending, hsaid, hkept⟩, rfl⟩
    · rintro ⟨members, ⟨-, hsaid, hkept⟩, rfl⟩
      exact ⟨_, hsaid, _, ⟨members, rfl, hkept, rfl⟩, rfl⟩
  | failed message =>
    obtain ⟨failure, hfailure⟩ := Json.members_failed valueReader .streamed body.bytes message
    constructor
    · intro h
      have hmap := Json.Document.read_map
        (Json.Document.scan body.bytes (.failed message)) .streamed
        (Json.Reader.members valueReader) ofMembers
      rw [hfailure] at hmap
      cases hmap.symm.trans h
    · rintro ⟨members, hholds, -⟩
      cases hending.symm.trans hholds.finished

/-! ### What an update means -/

section Means

open RateCard (Addresses)

variable {last : String → Option (Option String)} {before : RateCard}

/-- The text of a field after an update: the one that the greatest of its names has, or the one from
before if no name addresses it. -/
inductive FieldText (last : String → Option (Option String)) (before : RateCard) (f : Field) :
    String → Prop
  | given (name value : String) (hlast : last name = some (some value)) (h : Addresses name f)
      (hgreatest : ∀ other, last other ≠ none → Addresses other f →
        Utf8.encode other ≤ Utf8.encode name) :
      FieldText last before f value
  | kept (h : ∀ name, last name ≠ none → ¬ Addresses name f) :
      FieldText last before f (before.text f)

/-- What an update makes of a card, if these are the last values of its names. A name without a
text, or with one that its field does not take, refuses the whole update. -/
inductive Means (last : String → Option (Option String)) (before : RateCard) :
    Except PricingError RateCard → Prop
  | accepted (after : RateCard)
      (hall : ∀ name given, last name = some given → ∃ f value, Assigns (name, given) f value)
      (htexts : ∀ f, FieldText last before f (after.text f)) : Means last before (.ok after)
  | refused (name : String) (given : Option String) (e : PricingError)
      (hlast : last name = some given) (h : Refuses (name, given) e)
      (hleast : ∀ other given', last other = some given' → Utf8.encode other < Utf8.encode name →
        ∃ f value, Assigns (other, given') f value) : Means last before (.error e)

lemma FieldText.unique {f : Field} {value other : String} (h : FieldText last before f value)
    (h' : FieldText last before f other) : value = other := by
  cases h with
  | given name value hlast hname hgreatest =>
    have hgiven : last name ≠ none := by simp [hlast]
    cases h' with
    | given name' other hlast' hname' hgreatest' =>
      have hgiven' : last name' ≠ none := by simp [hlast']
      have hle := Utf8.encode_le_encode_iff.mp (hgreatest name' hgiven' hname')
      have hge := Utf8.encode_le_encode_iff.mp (hgreatest' name hgiven hname)
      rw [le_antisymm hge hle, hlast'] at hlast
      cases hlast
      rfl
    | kept hnone => exact absurd hname (hnone name hgiven)
  | kept hnone =>
    cases h' with
    | given name' other hlast' hname' hgreatest' =>
      exact absurd hname' (hnone name' (by simp [hlast']))
    | kept _ => rfl

/-- An update has one meaning. -/
theorem Means.unique {result other : Except PricingError RateCard} (h : Means last before result)
    (h' : Means last before other) : result = other := by
  cases h with
  | accepted after hall htexts =>
    cases h' with
    | accepted after' _ htexts' => rw [RateCard.ext (funext fun f => (htexts f).unique (htexts' f))]
    | refused name given e hlast hrefuses _ =>
      obtain ⟨f, value, hassigns⟩ := hall name given hlast
      exact absurd hassigns hrefuses.not_assigns
  | refused name given e hlast hrefuses hleast =>
    cases h' with
    | accepted after' hall _ =>
      obtain ⟨f, value, hassigns⟩ := hall name given hlast
      exact absurd hassigns hrefuses.not_assigns
    | refused name' given' e' hlast' hrefuses' hleast' =>
      -- Neither of the two names is less than the other.
      have hge : ¬ name' < name := fun hlt => by
        obtain ⟨f, value, hassigns⟩ :=
          hleast name' given' hlast' (Utf8.encode_lt_encode_iff.mpr hlt)
        exact hrefuses'.not_assigns hassigns
      have hle : ¬ name < name' := fun hlt => by
        obtain ⟨f, value, hassigns⟩ := hleast' name given hlast (Utf8.encode_lt_encode_iff.mpr hlt)
        exact hrefuses.not_assigns hassigns
      have hname : name = name' := le_antisymm (not_lt.mp hge) (not_lt.mp hle)
      subst hname
      cases hlast.symm.trans hlast'
      rw [hrefuses.unique hrefuses']

/-- Of the entries for one field the last has the greatest name. -/
lemma lastValue_of_assigns {entries : List (String × Option String)} {puts : List (Field × String)}
    (h : List.Forall₂ (fun entry put => Assigns entry put.1 put.2) entries puts)
    (hascending : Ascending entries) (f : Field) :
    (∃ name value, lastValue puts f = some value ∧ (name, some value) ∈ entries ∧ Addresses name f ∧
        ∀ entry ∈ entries, Addresses entry.1 f → entry.1 ≤ name) ∨
      lastValue puts f = none ∧ ∀ entry ∈ entries, ¬ Addresses entry.1 f := by
  induction h with
  | nil => exact .inr ⟨rfl, fun _ hmem => absurd hmem List.not_mem_nil⟩
  | @cons entry put rest puts hassigns hrest ih =>
    obtain ⟨hfirst, hascending⟩ := List.pairwise_cons.mp hascending
    rw [lastValue_cons]
    rcases ih hascending with ⟨name, value, hvalue, hmem, hname, hgreatest⟩ | ⟨hnone, hothers⟩
    · refine .inl ⟨name, value, by rw [hvalue, Option.some_or],
        List.mem_cons_of_mem _ hmem, hname, ?_⟩
      exact List.forall_mem_cons.mpr ⟨fun _ => (hfirst _ hmem).le, hgreatest⟩
    · rw [hnone, Option.none_or]
      by_cases hf : f = put.1
      · subst hf
        refine .inl ⟨entry.1, put.2, by rw [if_pos (beq_self_eq_true _)], ?_,
          hassigns.addresses, ?_⟩
        · rw [← hassigns.value_eq]
          exact List.mem_cons_self
        · exact List.forall_mem_cons.mpr
            ⟨fun _ => le_rfl, fun other hother hfield => absurd hfield (hothers other hother)⟩
      · refine .inr ⟨by rw [if_neg (by simpa using hf)],
          List.forall_mem_cons.mpr ⟨fun hfield => ?_, hothers⟩⟩
        exact hf (hfield.unique hassigns.addresses)

/-- An update that an object makes means what the last values of its names mean. -/
theorem means_apply (members : List (String × Option String)) (before : RateCard) :
    Means (lastValue members) before ((ofMembers members).apply before) := by
  have hmem : ∀ name given, (name, given) ∈ (ofMembers members).entries ↔
      lastValue members name = some given :=
    fun name given => mem_ofMembers_iff
  have hascending := ascending_ofMembers members
  rw [apply, foldlM_applyEntry]
  generalize (ofMembers members).entries = entries at hmem hascending
  cases hassign : entries.mapM assign with
  | ok puts =>
    have hputs := (mapM_eq_ok_iff.mp hassign).imp fun _ _ => assign_eq_ok_iff.mp
    refine .accepted _ (fun name given hlast => ?_) fun f => ?_
    · obtain ⟨put, -, hput⟩ := Forall₂.exists_of_mem hputs ((hmem name given).mpr hlast)
      exact ⟨put.1, put.2, hput⟩
    · have hgiven : ∀ name, lastValue members name ≠ none → ∃ given, (name, given) ∈ entries := by
        intro name hname
        obtain ⟨given, hlast⟩ := Option.ne_none_iff_exists'.mp hname
        exact ⟨given, (hmem name given).mpr hlast⟩
      rw [RateCard.text_putAll]
      rcases lastValue_of_assigns hputs hascending f with
        ⟨name, value, hvalue, hentry, hname, hgreatest⟩ | ⟨hnone, hothers⟩
      · rw [hvalue]
        refine .given name value ((hmem name _).mp hentry) hname fun other hother hfield => ?_
        obtain ⟨given, hother⟩ := hgiven other hother
        exact Utf8.encode_le_encode_iff.mpr (hgreatest _ hother hfield)
      · rw [hnone]
        refine .kept fun name hname => ?_
        obtain ⟨given, hname⟩ := hgiven name hname
        exact hothers _ hname
  | error e =>
    obtain ⟨lesser, ⟨name, given⟩, greater, rfl, hlesser, hrefuses⟩ := mapM_eq_error_iff.mp hassign
    have hlast := (hmem name given).mp (List.mem_append_right _ List.mem_cons_self)
    refine .refused name given e hlast (assign_eq_error_iff.mp hrefuses)
      fun other given' hother hlt => ?_
    have hnot : (other, given') ∉ (name, given) :: greater := by
      have hgreater := (List.pairwise_cons.mp (List.pairwise_append.mp hascending).2.1).1
      rintro (_ | ⟨_, hmore⟩)
      · exact absurd hlt (List.lt_irrefl _)
      · exact absurd (Utf8.encode_lt_encode_iff.mp hlt) (lt_asymm (hgreater _ hmore))
    obtain ⟨⟨f, value⟩, hassigns⟩ :=
      hlesser _ ((List.mem_append.mp ((hmem other given').mpr hother)).resolve_right hnot)
    exact ⟨f, value, assign_eq_ok_iff.mp hassigns⟩

end Means

/-! ### Bodies that come to the same -/

section Same

variable {body other : Body} {members others : List (String × Tree)}

/-- The last value of a name, if there is one: the text that it is, or nothing if it is
something else. -/
def lastText (members : List (String × Tree)) (name : String) : Option (Option String) :=
  (lastValue members name).map Tree.text?

/-- Members in another order, those of one name in the same order. -/
lemma lastText_congr (h : ∀ name, others.filter (·.1 == name) = members.filter (·.1 == name)) :
    lastText others = lastText members := by
  funext name
  rw [lastText, lastText, ← lastValue_filter others, ← lastValue_filter members, h]

lemma Body.Holds.of_sameTokens (h : body.Holds members) (hending : other.ending = .finished)
    (hsame : Json.SameTokens body.bytes other.bytes) : other.Holds members := by
  have hkept : (Tree.object (members.map fun m => (some m.1, m.2))).Kept 127 := by
    refine .object (fun m hm => ?_) fun m hm => ?_ <;>
      obtain ⟨member, hmember, rfl⟩ := List.mem_map.mp hm
    · exact Option.some_ne_none _
    · exact h.kept member hmember
  exact ⟨hending, h.text.of_sameTokens hkept hsame, h.kept⟩

end Same

end CardUpdate

namespace Provider

variable {p : Provider} {files : Files} {edit other : RateCard → Except PricingError RateCard}

lemma update_congr (h : edit p.card = other p.card) :
    p.update files edit = p.update files other := by
  rw [update, update, Store.update_congr h]

lemma update_of_error {e : PricingError} (h : edit p.card = .error e) :
    p.update files edit = (.error e, p, files) := by
  rw [update, Store.update_of_error h]

/-- A store that can be written takes each card that an edit makes. -/
lemma update_of_writable (hw : p.store.Writable files)
    (edit : RateCard → Except PricingError RateCard) :
    (p.update files edit).1 = edit p.card ∧
    ∀ c, edit p.card = .ok c → (p.update files edit).2.1.card = c := by
  cases h : edit p.card with
  | error e =>
    rw [update_of_error h]
    exact ⟨rfl, fun c hc => by cases hc⟩
  | ok card =>
    rw [update, Store.update_of_ok hw h]
    refine ⟨rfl, fun c hc => ?_⟩
    cases hc
    rfl

/-- The edit of a body means what the last values of its names mean. -/
lemma means_editOfBody {body : CardUpdate.Body} {members : List (String × Tree)}
    (h : body.Holds members) (c : RateCard) :
    CardUpdate.Means (CardUpdate.lastText members) c (editOfBody body c) := by
  have hlast : CardUpdate.lastText members = lastValue (members.map fun m => (m.1, m.2.text?)) := by
    funext name
    rw [CardUpdate.lastText, lastValue_map]
  rw [editOfBody, CardUpdate.ofBody_eq_ok_iff.mpr ⟨members, h, rfl⟩, hlast]
  exact CardUpdate.means_apply _ c

/-- What a body makes of the card. If it is an object, the last values of its names count, in the
order of the names. The order of its members does not matter, but for those of one name, and neither
do the blanks between its tokens. A body that is no object changes nothing. -/
theorem update_of_body (hw : p.store.Writable files) (body : CardUpdate.Body) :
    (∀ members, body.Holds members →
      CardUpdate.Means (CardUpdate.lastText members) p.card (p.update files (editOfBody body)).1 ∧
      (∀ c, (p.update files (editOfBody body)).1 = .ok c →
         (p.update files (editOfBody body)).2.1.card = c) ∧
      (∀ e, (p.update files (editOfBody body)).1 = .error e →
         (p.update files (editOfBody body)).2 = (p, files)) ∧
      (∀ other others, other.Holds others →
        (∀ name, others.filter (·.1 == name) = members.filter (·.1 == name)) →
        p.update files (editOfBody other) = p.update files (editOfBody body)) ∧
      ∀ other, other.ending = .finished → Json.SameTokens body.bytes other.bytes →
        p.update files (editOfBody other) = p.update files (editOfBody body)) ∧
    ((∀ members, ¬ body.Holds members) →
       ∃ refusal, p.update files (editOfBody body) = (.error (.decode refusal), p, files)) := by
  obtain ⟨hresult, hcard⟩ := update_of_writable hw (editOfBody body)
  refine ⟨fun members hbody => ⟨?_, fun c hc => hcard c (hresult ▸ hc), fun e he => ?_,
    fun other others hother hnames => ?_, fun other hending hsame => ?_⟩, fun hnone => ?_⟩
  · rw [hresult]
    exact means_editOfBody hbody p.card
  · rw [update_of_error (hresult ▸ he)]
  · refine update_congr ((means_editOfBody hother p.card).unique ?_)
    rw [CardUpdate.lastText_congr hnames]
    exact means_editOfBody hbody p.card
  · exact update_congr
      ((means_editOfBody (hbody.of_sameTokens hending hsame) p.card).unique
        (means_editOfBody hbody p.card))
  · cases hof : CardUpdate.ofBody body with
    | ok update =>
      obtain ⟨members, hbody, -⟩ := CardUpdate.ofBody_eq_ok_iff.mp hof
      exact absurd hbody (hnone members)
    | error refusal => exact ⟨refusal, update_of_error (by rw [editOfBody, hof])⟩

/-- Of two names of one field the greater counts, also where the other comes last. -/
theorem update_of_body_two_names :
    let p : Provider := ⟨"one", .inMemory .default, .empty⟩
    let value : Json.Value :=
      .object [("description", .text "a"), ("Description", .text "b"), ("description", .text " c "),
      ("Description", .text "d")]
    let body : CardUpdate.Body := ⟨[value.compact], .finished⟩
    p.store.Writable (.empty "/") ∧
    ∃ c, (p.update (.empty "/") (editOfBody body)).1 = .ok c ∧ c.text .description = " c " := by
  intro p value body
  have hw : p.store.Writable (.empty "/") := ⟨rfl, by simp [p, Store.inMemory]⟩
  have hbody :
      body.Holds
        [("description", .text (some "a")), ("Description", .text (some "b")),
         ("description", .text (some " c ")), ("Description", .text (some "d"))] := by
    have hbytes : body.bytes = value.compact := List.append_nil _
    refine ⟨rfl, ?_, by simp [Json.Tree.Kept.text]⟩
    rw [hbytes]
    exact Json.Value.text_compact ⟨trivial, trivial, trivial, trivial, trivial⟩
  obtain ⟨hmeans, -⟩ := (update_of_body hw body).1 _ hbody
  have hresult := hmeans.unique (means_editOfBody hbody p.card)
  rw [editOfBody, CardUpdate.ofBody_eq_ok_iff.mpr ⟨_, hbody, rfl⟩] at hresult
  exact ⟨hw, (p.card.put .description "d").put .description " c ", hresult, rfl⟩

end Provider

end ClusterCost
