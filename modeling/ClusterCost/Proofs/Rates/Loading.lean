import ClusterCost.Proofs.Files
import ClusterCost.Proofs.Json.Changes
import ClusterCost.Proofs.Rates.Card
import Mathlib.Data.List.Nodup
import Mathlib.Data.Option.Basic

/-!
# Loading a pricing file

A pricing file that says an object is laid over the default card (`RateCard.laidOver`), whatever
else the object has and in whatever order. It is refused if the key of a field is there twice or has
a value that is no text. The list of the texts of the first fields is a card as well, and no other
text is one (`readCard_eq_ok_iff`). Loading a file that is there never changes it (`load_of_file`).
-/

namespace ClusterCost

open Json (Tree Says Portion Chain MeansText MeansRecord Reads)

namespace RateCard

/-! ### Trees that give a card -/

/-- An object fits the card: its keys can be decoded, and what it has for fields are
texts, at most one for each. -/
structure Fits (ms : List (Option String × Tree)) : Prop where
  keys : ∀ m ∈ ms, m.1 ≠ none
  texts : ∀ (f : Field) t, (some f.key, t) ∈ ms → ∃ s, t = .text (some s)
  once : ∀ f : Field, (ms.map (·.1)).count (some f.key) ≤ 1

/-- The default card with the texts that an object has for its fields. -/
def laidOver (ms : List (Option String × Tree)) : RateCard :=
  ⟨fun f => ((ms.lookup (some f.key)).bind Tree.text?).getD (default.text f)⟩

/-- A tree gives a card. -/
inductive Gives : Tree → RateCard → Prop
  | object {ms : List (Option String × Tree)} (h : Fits ms) : Gives (.object ms) (laidOver ms)
  /-- A list has the texts of the first fields, in the order of the fields. -/
  | list {ts : List Tree} {c : RateCard} (hlength : ts.length ≤ Field.all.length)
      (hgiven : ∀ f t, (f, t) ∈ Field.all.zip ts → t = .text (some (c.text f)))
      (hleft : ∀ f, (∀ t, (f, t) ∉ Field.all.zip ts) → c.text f = default.text f) :
      Gives (.list ts) c

section Objects

variable {ms ms' : List (Option String × Tree)} {c : RateCard} {f : Field} {t : Tree} {s : String}

/-- The value that an object has for a field whose key is not repeated. -/
lemma lookup_eq_some_iff (honce : (ms.map (·.1)).count (some f.key) ≤ 1) :
    ms.lookup (some f.key) = some t ↔ (some f.key, t) ∈ ms := by
  refine ⟨fun h => ?_, Json.lookup_eq_some honce⟩
  obtain ⟨before, after, rfl, -⟩ := List.lookup_eq_some_iff.mp h
  exact List.mem_append_right _ List.mem_cons_self

lemma Fits.nil : Fits [] :=
  ⟨fun _ hm => absurd hm List.not_mem_nil, fun _ _ ht => absurd ht List.not_mem_nil,
   fun _ => Nat.zero_le 1⟩

lemma text_laidOver (ms : List (Option String × Tree)) (f : Field) :
    (laidOver ms).text f = ((ms.lookup (some f.key)).bind Tree.text?).getD (default.text f) := rfl

lemma Fits.text_of_mem (h : Fits ms) (ht : (some f.key, .text (some s)) ∈ ms) :
    (laidOver ms).text f = s := by
  rw [text_laidOver, (lookup_eq_some_iff (h.once f)).mpr ht]
  rfl

lemma text_of_missing (h : ∀ t, (some f.key, t) ∉ ms) : (laidOver ms).text f = default.text f := by
  have hlookup : ms.lookup (some f.key) = none := by
    rw [List.lookup_eq_none_iff]
    rintro ⟨key, t⟩ ht
    rw [bne_iff_ne]
    rintro rfl
    exact h t ht
  rw [text_laidOver, hlookup]
  rfl

/-- A card is laid over by an object just if it has the texts of the object, and the default
text where there is none. -/
lemma Fits.eq_laidOver_iff (h : Fits ms) : c = laidOver ms ↔
    (∀ (f : Field) t, (some f.key, t) ∈ ms → t = .text (some (c.text f))) ∧
      ∀ f : Field, (∀ t, (some f.key, t) ∉ ms) → c.text f = default.text f := by
  constructor
  · rintro rfl
    refine ⟨fun f t ht => ?_, fun f => text_of_missing⟩
    obtain ⟨s, rfl⟩ := h.texts f t ht
    rw [h.text_of_mem ht]
  · rintro ⟨hgiven, hleft⟩
    refine RateCard.ext (funext fun f => ?_)
    by_cases hf : ∃ t, (some f.key, t) ∈ ms
    · obtain ⟨t, ht⟩ := hf
      exact (h.text_of_mem (hgiven f t ht ▸ ht)).symm
    · rw [not_exists] at hf
      rw [hleft f hf, text_of_missing hf]

/-! ### What matters of an object -/

/-- The members with the key of a field. -/
def fieldMembers (ms : List (Option String × Tree)) : List (Option String × Tree) :=
  ms.filter fun m => (m.1.bind Field.keyed?).isSome

lemma mem_fieldMembers : (some f.key, t) ∈ fieldMembers ms ↔ (some f.key, t) ∈ ms := by
  simp [fieldMembers, Field.keyed?_key]

lemma count_fieldMembers (f : Field) :
    ((fieldMembers ms).map (·.1)).count (some f.key) = (ms.map (·.1)).count (some f.key) := by
  simp only [List.count, List.countP_map, fieldMembers, List.countP_filter]
  refine List.countP_congr fun m _ => ?_
  simp only [Function.comp_apply, Bool.and_eq_true, beq_iff_eq, and_iff_left_iff_imp]
  intro hm
  rw [hm, Option.bind_some, Field.keyed?_key, Option.isSome_some]

/-- Only the members for fields matter, and not their order. -/
lemma Fits.of_perm (h : Fits ms) (hkeys : ∀ m ∈ ms', m.1 ≠ none)
    (hperm : (fieldMembers ms').Perm (fieldMembers ms)) :
    Fits ms' ∧ laidOver ms' = laidOver ms := by
  have hmem : ∀ {f : Field} {t : Tree}, (some f.key, t) ∈ ms' ↔ (some f.key, t) ∈ ms := by
    intro f t
    rw [← mem_fieldMembers, hperm.mem_iff, mem_fieldMembers]
  have hfits : Fits ms' := by
    refine ⟨hkeys, fun f t ht => h.texts f t (hmem.mp ht), fun f => ?_⟩
    calc (ms'.map (·.1)).count (some f.key)
        = ((fieldMembers ms').map (·.1)).count (some f.key) := (count_fieldMembers f).symm
      _ = ((fieldMembers ms).map (·.1)).count (some f.key) := (hperm.map _).count_eq _
      _ = (ms.map (·.1)).count (some f.key) := count_fieldMembers f
      _ ≤ 1 := h.once f
  refine ⟨hfits, h.eq_laidOver_iff.mpr ?_⟩
  simp only [← hmem]
  exact hfits.eq_laidOver_iff.mp rfl

end Objects

/-! ### The reader of cards -/

/-- The part of a card's text that a field is. -/
def portion (f : Field) : Portion RateCard :=
  .of f.key .defaulted MeansText fun value c => c.put f value

/-- What is put for some fields, one after another, is what they have in the end. Each other
field is left as it was. -/
lemma chain_portions_iff {fields : List Field} (hnodup : fields.Nodup) {values : List (Option Tree)}
    {a c : RateCard} :
    Chain (fields.map portion) values a c ↔ fields.length = values.length ∧
      (∀ f t, (f, some t) ∈ fields.zip values → t = .text (some (c.text f))) ∧
      ∀ f, (∀ t, (f, some t) ∉ fields.zip values) → c.text f = a.text f := by
  induction fields generalizing values a with
  | nil =>
    cases values with
    | nil =>
      simp only [List.map_nil, Json.chain_nil_iff, List.zip_nil_left, List.not_mem_nil,
        not_false_eq_true, implies_true, forall_const]
      exact ⟨fun h => ⟨rfl, fun _ _ => nofun, fun f => h ▸ rfl⟩,
        fun h => RateCard.ext (funext fun f => (h.2.2 f).symm)⟩
    | cons v values => exact iff_of_false nofun fun h => absurd h.1 (by simp)
  | cons f fields ih =>
    obtain ⟨hnew, hnodup⟩ := List.nodup_cons.mp hnodup
    cases values with
    | nil => exact iff_of_false nofun fun h => absurd h.1 (by simp)
    | cons v values =>
      cases v with
      | none =>
        rw [List.map_cons, Json.chain_none_iff, ih hnodup]
        simp
      | some t =>
        rw [List.map_cons, Json.chain_some_iff]
        -- No field stands twice, so what is put for the first one is not touched again.
        have hmissing : ∀ t, (f, some t) ∉ fields.zip values :=
          fun t h => hnew (List.of_mem_zip h).1
        constructor
        · rintro ⟨b, ⟨s, rfl, rfl⟩, hchain⟩
          obtain ⟨hlength, hgiven, hleft⟩ := (ih hnodup).mp hchain
          have hf : c.text f = s := (hleft f hmissing).trans (text_put_self a f s)
          refine ⟨by simpa using hlength, fun g u hu => ?_, fun g hg => ?_⟩
          · rcases List.mem_cons.mp hu with heq | hu
            · cases heq
              rw [hf]
            · exact hgiven g u hu
          · have hne : g ≠ f := fun heq => hg (.text (some s)) (heq ▸ List.mem_cons_self)
            rw [hleft g fun u hu => hg u (List.mem_cons_of_mem _ hu), text_put, if_neg hne]
        · rintro ⟨hlength, hgiven, hleft⟩
          refine ⟨a.put f (c.text f), ⟨c.text f, hgiven f t List.mem_cons_self, rfl⟩,
            (ih hnodup).mpr ⟨by simpa using hlength, ?_, ?_⟩⟩
          · exact fun g u hu => hgiven g u (List.mem_cons_of_mem _ hu)
          · intro g hg
            rw [text_put]
            split_ifs with heq
            · rw [heq]
            · refine hleft g fun u hu => ?_
              rcases List.mem_cons.mp hu with hfirst | hu
              · exact heq (Prod.mk.inj hfirst).1
              · exact hg u hu

/-- The values that a list gives to parts are its items. -/
lemma mem_zip_valuesOf {fields : List Field} {ts : List Tree} {f : Field} {t : Tree} :
    (f, some t) ∈ fields.zip (Json.valuesOf (fields.map portion) ts) ↔ (f, t) ∈ fields.zip ts := by
  induction fields generalizing ts with
  | nil => simp
  | cons g fields ih => cases ts <;> simp [Json.valuesOf, ih]

lemma length_valuesOf (parts : List (Portion RateCard)) (ts : List Tree) :
    (Json.valuesOf parts ts).length = parts.length := by
  induction parts generalizing ts with
  | nil => rfl
  | cons p parts ih => cases ts <;> simp [Json.valuesOf, ih]

/-- What a card is read from is what gives it: an object that fits, or a list. -/
lemma meansRecord_iff {t : Tree} {c : RateCard} :
    MeansRecord (Field.all.map portion) default t c ↔ Gives t c := by
  have hmem : ∀ {values : Field → Option Tree} {f : Field} {t : Tree},
      (f, some t) ∈ Field.all.zip (Field.all.map values) ↔ values f = some t := by
    intro values f t
    rw [← List.map_prod_left_eq_zip]
    simp [eq_comm]
  constructor
  · rintro ⟨values, harranges, hchain⟩
    obtain ⟨-, hgiven, hleft⟩ := (chain_portions_iff Field.nodup_all).mp hchain
    cases harranges with
    | @object ms hkeys honce hrequired =>
      have honce : ∀ f : Field, (ms.map (·.1)).count (some f.key) ≤ 1 :=
        fun f => honce _ (List.mem_map_of_mem f.mem_all)
      simp only [List.map_map, hmem, Function.comp_apply, portion, Portion.of,
        lookup_eq_some_iff (honce _)] at hgiven hleft
      have hfits : Fits ms := ⟨hkeys, fun f t ht => ⟨_, hgiven f t ht⟩, honce⟩
      rw [hfits.eq_laidOver_iff.mpr ⟨hgiven, hleft⟩]
      exact .object hfits
    | list hlength hrest =>
      simp only [mem_zip_valuesOf] at hgiven hleft
      exact .list (by simpa using hlength) hgiven hleft
  · rintro (hfits | ⟨hlength, hgiven, hleft⟩)
    · refine ⟨_, .object hfits.keys ?_ ?_, (chain_portions_iff Field.nodup_all).mpr ⟨by simp, ?_⟩⟩
      · simpa [portion, Portion.of] using fun f => hfits.once f
      · simp [portion, Portion.of]
      · simp only [List.map_map, hmem, Function.comp_apply, portion, Portion.of,
          lookup_eq_some_iff (hfits.once _)]
        exact hfits.eq_laidOver_iff.mp rfl
    · refine ⟨_, .list (by simpa using hlength) ?_,
        (chain_portions_iff Field.nodup_all).mpr ⟨by rw [length_valuesOf, List.length_map], ?_⟩⟩
      · intro p hp
        obtain ⟨f, -, rfl⟩ := List.mem_map.mp (List.mem_of_mem_drop hp)
        rfl
      · simp only [mem_zip_valuesOf]
        exact ⟨hgiven, hleft⟩

lemma reads_reader : Reads .whole reader Gives := by
  have hslots :
      List.Forall₂ (Json.Slot.Fills (Json.Reading.whole).inner) record.slots
        (Field.all.map portion) := by
    rw [record, List.forall₂_map_left_iff, List.forall₂_map_right_iff, List.forall₂_same]
    exact fun f _ => (Json.reads_text _).fills _ _ _
  have hcommutes : (Field.all.map portion).Pairwise Portion.Commutes := by
    rw [List.pairwise_map]
    exact Field.nodup_all.imp fun hne => Json.Portion.commutes_of fun v w c => put_comm c hne v w
  have hnames : ((Field.all.map portion).map (·.name)).Nodup := by
    rw [List.map_map]
    exact Field.nodup_all.map Field.key_injective
  have hreads := Json.reads_record record hslots hcommutes hnames (.inr (by decide))
  rwa [show MeansRecord (Field.all.map portion) record.blank = Gives from
    funext₂ fun t c => propext meansRecord_iff] at hreads

/-! ### The written card -/

lemma mem_members {c : RateCard} {f : Field} {t : Tree} :
    (some f.key, t) ∈ (c.members.map fun m => (some m.1, m.2.tree)) ↔
      t = .text (some (c.text f)) := by
  simp only [members, List.map_map, List.mem_map, Function.comp_apply, Json.Value.tree,
    Prod.mk.injEq, Option.some.injEq]
  constructor
  · rintro ⟨g, -, hkey, rfl⟩
    rw [Field.key_injective hkey]
  · rintro rfl
    exact ⟨f, f.mem_all, rfl, rfl⟩

lemma fits_members (c : RateCard) : Fits (Json.Value.memberTrees c.members) := by
  rw [Json.Value.memberTrees_eq_map]
  have hkeys : ∀ m ∈ c.members.map fun m => (some m.1, m.2.tree), m.1 ≠ none := by
    intro m hm
    obtain ⟨n, -, rfl⟩ := List.mem_map.mp hm
    exact Option.some_ne_none _
  have hnodup : ((c.members.map fun m => (some m.1, m.2.tree)).map (·.1)).Nodup := by
    rw [members, List.map_map, List.map_map]
    exact Field.nodup_all.map ((Option.some_injective _).comp Field.key_injective)
  exact ⟨hkeys, fun f t ht => ⟨_, mem_members.mp ht⟩,
    fun f => List.nodup_iff_count_le_one.mp hnodup _⟩

/-- What is written for a card gives it all its texts. -/
lemma laidOver_members (c : RateCard) : laidOver (Json.Value.memberTrees c.members) = c := by
  refine (c.fits_members.eq_laidOver_iff.mpr ?_).symm
  rw [Json.Value.memberTrees_eq_map]
  exact ⟨fun f t => mem_members.mp, fun f hf => absurd (mem_members.mpr rfl) (hf _)⟩

end RateCard

/-! ### Files -/

namespace Store

variable {path text : String} {files : Files} {c : RateCard}

lemma readCard_eq (hread : files.readText path = .ok text) :
    readCard path files = (Json.readText RateCard.reader (Utf8.encode text)).mapError fun failure =>
      .parse path (.ofFailure (Utf8.encode text) failure) := by
  rw [readCard, hread]
  rfl

lemma readCard_eq_ok_iff (hread : files.readText path = .ok text) :
    readCard path files = .ok c ↔ ∃ t, Says (Utf8.encode text) t ∧ RateCard.Gives t c := by
  rw [readCard_eq hread, ← Json.readText_eq_ok_iff RateCard.reads_reader]
  cases Json.readText RateCard.reader (Utf8.encode text) <;> simp [Except.mapError]

/-- The only error of a file with a text is that the text gives no card. -/
lemma parse_of_readCard_ne_ok (hread : files.readText path = .ok text)
    (h : ∀ c, readCard path files ≠ .ok c) :
    ∃ refusal, readCard path files = .error (.parse path refusal) := by
  rw [readCard_eq hread] at h ⊢
  cases hcard : Json.readText RateCard.reader (Utf8.encode text) with
  | ok c => exact absurd (by rw [hcard]; rfl) (h c)
  | error failure => exact ⟨_, rfl⟩

/-- A file that is there is read and left as it is. -/
lemma load_of_readText (hread : files.readText path = .ok text) :
    load path files =
      ((readCard path files).map fun c => ⟨⟨some path, c⟩, .loadedCard path⟩, files) := by
  obtain ⟨content, hcontent⟩ : ∃ content, files.read path = .ok content := by
    obtain ⟨content, hcontent, -⟩ := bind_eq_ok_iff.mp hread
    exact ⟨content, hcontent⟩
  rw [load, if_pos (Files.has_of_read hcontent)]

/-- A file with an object that fits is laid over the default card. -/
theorem readCard_of_text {content : Bytes} {ms : List (String × Json.Value)}
    (hread : files.read path = .ok content) (hform : Json.Text content (.object ms))
    (hfits : RateCard.Fits (Json.Value.memberTrees ms)) :
    readCard path files = .ok (.laidOver (Json.Value.memberTrees ms)) := by
  obtain ⟨text, rfl⟩ := hform.utf8
  have htext : files.readText path = .ok text := by
    rw [Files.readText, hread, ok_bind, Utf8.decode?_encode]
    rfl
  exact (readCard_eq_ok_iff htext).mpr ⟨_, hform, .object hfits⟩

/-- What is read from a written card is the card. -/
theorem readCard_pretty {card : RateCard} (hread : files.read path = .ok card.toJson.pretty) :
    readCard path files = .ok card := by
  rw [readCard_of_text hread card.text_toJson card.fits_members, RateCard.laidOver_members]

/-- A device that is full can still be read. -/
lemma load_fullDevice :
    load "/d/p" .fullDevice = (.ok ⟨⟨some "/d/p", .default⟩, .loadedCard "/d/p"⟩, .fullDevice) := by
  have hform : Json.Text [0x7B, 0x7D] (.object []) :=
    ⟨_, [], .none _, .object (.none (.none _)), .none _⟩
  rw [load, if_pos (Files.has_of_read Files.read_fullDevice),
    readCard_of_text Files.read_fullDevice hform .nil]
  rfl

/-- Loading a file that can be read leaves all files as they are. It gives the card that the text
gives, and if the text gives none, it is refused. An object that fits is laid over the default card:
the card has the text of each field that is there, and the default text of each other; neither the
order of the members nor those with other keys matter. An object that does not fit is refused. -/
theorem load_of_file (hread : files.readText path = .ok text) :
    (load path files).2 = files ∧
    (∀ c, (load path files).1 = .ok ⟨⟨some path, c⟩, .loadedCard path⟩ ↔
       ∃ t, Says (Utf8.encode text) t ∧ RateCard.Gives t c) ∧
    ((¬ ∃ t c, Says (Utf8.encode text) t ∧ RateCard.Gives t c) →
       ∃ refusal, (load path files).1 = .error (.parse path refusal)) ∧
    ∀ ms, Says (Utf8.encode text) (.object ms) →
      (RateCard.Fits ms → (load path files).1 = .ok ⟨⟨some path, .laidOver ms⟩, .loadedCard path⟩ ∧
        (∀ (f : Field) s, (some f.key, .text (some s)) ∈ ms → (RateCard.laidOver ms).text f = s) ∧
        (∀ f : Field, (∀ t, (some f.key, t) ∉ ms) →
           (RateCard.laidOver ms).text f = RateCard.default.text f) ∧
        ∀ files' text' ms', files'.readText path = .ok text' →
          Says (Utf8.encode text') (.object ms') → (∀ m ∈ ms', m.1 ≠ none) →
          (RateCard.fieldMembers ms').Perm (RateCard.fieldMembers ms) →
            (load path files').1 = (load path files).1) ∧
      (¬ RateCard.Fits ms → ∃ refusal, (load path files).1 = .error (.parse path refusal)) := by
  have hloaded : ∀ {files' text' t c}, files'.readText path = .ok text' →
      Says (Utf8.encode text') t → RateCard.Gives t c →
      (load path files').1 = .ok ⟨⟨some path, c⟩, .loadedCard path⟩ := by
    intro files' text' t c hread' ht hgives
    rw [load_of_readText hread', (readCard_eq_ok_iff hread').mpr ⟨t, ht, hgives⟩]
    rfl
  have hparse : (∀ c, readCard path files ≠ .ok c) →
      ∃ refusal, (load path files).1 = .error (.parse path refusal) := by
    intro hnone
    obtain ⟨refusal, hrefusal⟩ := parse_of_readCard_ne_ok hread hnone
    exact ⟨refusal, by rw [load_of_readText hread, hrefusal]; rfl⟩
  refine ⟨by rw [load_of_readText hread], fun c => ?_, fun hnone => ?_,
    fun ms hms => ⟨fun hfits => ?_, fun hfits => ?_⟩⟩
  · rw [← readCard_eq_ok_iff hread, load_of_readText hread]
    cases readCard path files <;> simp [Except.map]
  · refine hparse fun c hc => hnone ?_
    obtain ⟨t, ht⟩ := (readCard_eq_ok_iff hread).mp hc
    exact ⟨t, c, ht⟩
  · refine ⟨hloaded hread hms (.object hfits), fun f s => hfits.text_of_mem,
      fun f => RateCard.text_of_missing, ?_⟩
    intro files' text' ms' hread' hms' hkeys' hperm
    obtain ⟨hfits', hcard⟩ := hfits.of_perm hkeys' hperm
    rw [hloaded hread' hms' (.object hfits'), hcard, hloaded hread hms (.object hfits)]
  · refine hparse fun c hc => ?_
    obtain ⟨t, ht, hgives⟩ := (readCard_eq_ok_iff hread).mp hc
    rw [ht.unique hms] at hgives
    cases hgives with
    | object h => exact hfits h

/-- A key in an escaped spelling, after a member that holds the same key inside. -/
theorem load_of_file_escaped_key :
    let text := "\x7b\"x\": [null, \x7b\"CPU\": true\x7d], \"C\\u0050U\": \" é\"\x7d"
    let files : Files := { root := "/d", entries := [(["p"], .file (Utf8.encode text))] }
    files.readText "/d/p" = .ok text ∧
      ∃ c, (load "/d/p" files).1 = .ok ⟨⟨some "/d/p", c⟩, .loadedCard "/d/p"⟩ ∧ c.text .cpu = " é" ∧
        c.text .ram = RateCard.default.text .ram ∧ (load "/d/p" files).2 = files := by
  intro text files
  have hread : files.readText "/d/p" = .ok text := by
    have hbytes : files.read "/d/p" = .ok (Utf8.encode text) := Files.read_in_root rfl rfl
    rw [Files.readText, hbytes, ok_bind, Utf8.decode?_encode]
    rfl
  obtain ⟨ms, hms⟩ : ∃ ms : List (Option String × Tree),
      ms = [(some "x", .list [.null, .object [(some "CPU", .bool true)]]),
      (some "CPU", .text (some " é"))] := ⟨_, rfl⟩
  have hsays : Says (Utf8.encode text) (.object ms) := by
    rw [hms]
    exact Json.Document.says_iff.mpr ⟨(Json.Document.scan (Utf8.encode text) .finished).value,
      by with_unfolding_all rfl, by with_unfolding_all rfl⟩
  have hfits : RateCard.Fits ms := by
    subst hms
    refine ⟨by simp, fun f t ht => ?_, fun f => List.nodup_iff_count_le_one.mp (by decide) _⟩
    rcases List.mem_cons.mp ht with hother | ht
    · have hkey := f.keyed?_key
      rw [Option.some.inj (Prod.mk.inj hother).1] at hkey
      cases hkey
    · exact ⟨" é", (Prod.mk.inj (List.mem_singleton.mp ht)).2⟩
  obtain ⟨hfiles, -, -, hobject⟩ := load_of_file hread
  obtain ⟨hload, hgiven, hleft, -⟩ := (hobject ms hsays).1 hfits
  exact ⟨hread, .laidOver ms, hload, hgiven .cpu " é" (by simp [hms, Field.key]),
    hleft .ram (by simp [hms, Field.key]), hfiles⟩

end Store

end ClusterCost
