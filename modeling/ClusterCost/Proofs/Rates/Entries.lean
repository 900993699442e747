import ClusterCost.Proofs.Dictionary
import ClusterCost.Proofs.Outcome
import ClusterCost.Rates.Update
import Mathlib.Data.List.Induction
import Mathlib.Data.String.Basic

/-!
# Entries of an update

What an entry of an update comes to does not depend on the card: it gives a text to a field, or is
refused (`CardUpdate.assign`). So an update is refused for its first entry that is refused, and
otherwise gives each field the last text that an entry has for it (`CardUpdate.foldlM_applyEntry`).
The entries of an object are its names in ascending order, each with its last value
(`CardUpdate.mem_ofMembers_iff`).
-/

namespace ClusterCost

namespace RateCard

/-- A name addresses a field, the case of its first letter aside. -/
def Addresses (name : String) (f : Field) : Prop := fieldNamed? (UpperCase.capitalize name) = some f

lemma Addresses.unique {name : String} {f g : Field} (hf : Addresses name f)
    (hg : Addresses name g) : f = g :=
  Option.some.inj (hf.symm.trans hg)

/-! ### Texts put one after another -/

/-- The card after these texts were put into these fields. -/
def putAll (c : RateCard) (puts : List (Field × String)) : RateCard :=
  puts.foldl (fun c p => c.put p.1 p.2) c

lemma text_putAll (c : RateCard) (puts : List (Field × String)) (f : Field) :
    (c.putAll puts).text f = (lastValue puts f).getD (c.text f) := by
  induction puts generalizing c with
  | nil => rfl
  | cons p rest ih =>
    have hcons : c.putAll (p :: rest) = (c.put p.1 p.2).putAll rest := rfl
    rw [hcons, ih, lastValue_cons, text_put]
    by_cases hf : f = p.1
    · cases lastValue rest f <;> simp [hf]
    · simp [hf]

/-- Texts for different fields may be put in any order. -/
lemma putAll_perm (c : RateCard) {puts other : List (Field × String)} (h : (puts.map (·.1)).Nodup)
    (hperm : puts.Perm other) : c.putAll puts = c.putAll other := by
  ext f
  rw [text_putAll, text_putAll, lastValue_perm h hperm]

/-- Texts that were put need not be put again. -/
lemma putAll_again (c : RateCard) {puts other : List (Field × String)} (h : (puts.map (·.1)).Nodup)
    (hperm : puts.Perm other) : (c.putAll puts).putAll other = c.putAll puts := by
  ext f
  rw [text_putAll, text_putAll, ← lastValue_perm h hperm]
  cases lastValue puts f <;> rfl

end RateCard

namespace CardUpdate

open RateCard (Addresses check fieldNamed?)

/-! ### One entry -/

/-- Why an entry is refused. -/
inductive Refuses : String × Option String → PricingError → Prop
  | nonText (name : String) : Refuses (name, none) (.nonText name)
  | unknownField (name value : String) (h : ∀ f, ¬ Addresses name f) :
      Refuses (name, some value) (.unknownField (UpperCase.capitalize name))
  | invalidValue (name value : String) (f : Field) (error : ValueError) (h : Addresses name f)
      (hcheck : check f.kind value = .error error) :
      Refuses (name, some value) (.invalidValue f.name value error)

/-- An entry gives a text to a field. -/
structure Assigns (entry : String × Option String) (f : Field) (value : String) : Prop where
  value_eq : entry.2 = some value
  addresses : Addresses entry.1 f
  valid : check f.kind value = .ok ()

/-- The field that an entry gives a text to, and the text. -/
def assign : String × Option String → Except PricingError (Field × String)
  | (name, none) => .error (.nonText name)
  | (name, some value) =>
    match fieldNamed? (UpperCase.capitalize name) with
    | none => .error (.unknownField (UpperCase.capitalize name))
    | some f =>
      (check f.kind value).mapError (.invalidValue f.name value) |>.map fun () => (f, value)

variable {entry : String × Option String} {f : Field} {value : String} {e : PricingError}
  {c : RateCard}

lemma assign_eq_ok_iff : assign entry = .ok (f, value) ↔ Assigns entry f value := by
  obtain ⟨name, _ | text⟩ := entry
  · constructor
    · rintro ⟨⟩
    · rintro ⟨⟨⟩, -, -⟩
  · rw [assign]
    constructor
    · intro h
      split at h
      · cases h
      · rename_i g hg
        obtain ⟨done, hcheck, heq⟩ := map_eq_ok_iff.mp h
        obtain ⟨rfl, rfl⟩ := Prod.mk.inj heq
        exact ⟨rfl, hg, mapError_eq_ok_iff.mp hcheck⟩
    · rintro ⟨hvalue, hfield, hcheck⟩
      cases hvalue
      simp only [Addresses] at hfield
      simp only [hfield, hcheck]
      rfl

lemma assign_eq_error_iff : assign entry = .error e ↔ Refuses entry e := by
  obtain ⟨name, _ | text⟩ := entry
  · constructor
    · rintro ⟨⟩
      exact .nonText name
    · rintro ⟨⟩
      rfl
  · rw [assign]
    constructor
    · intro h
      split at h
      · rename_i hnone
        cases h
        refine .unknownField name text fun f hf => ?_
        rw [Addresses, hnone] at hf
        cases hf
      · rename_i g hg
        cases hcheck : check g.kind text with
        | ok done =>
          rw [hcheck] at h
          cases h
        | error error =>
          rw [hcheck] at h
          cases h
          exact .invalidValue name text g error hg hcheck
    · intro h
      cases h with
      | unknownField _ _ h =>
        rw [Option.eq_none_iff_forall_ne_some.mpr h]
      | invalidValue _ _ g error hg hcheck =>
        rw [Addresses] at hg
        simp only [hg, hcheck]
        rfl

lemma Refuses.not_assigns (h : Refuses entry e) : ¬ Assigns entry f value := by
  intro h'
  cases (assign_eq_error_iff.mpr h).symm.trans (assign_eq_ok_iff.mpr h')

lemma Refuses.unique {e' : PricingError} (h : Refuses entry e) (h' : Refuses entry e') : e = e' :=
  Except.error.inj ((assign_eq_error_iff.mpr h).symm.trans (assign_eq_error_iff.mpr h'))

/-! ### Entry after entry -/

lemma applyEntry_eq (c : RateCard) (entry : String × Option String) :
    applyEntry c entry = (assign entry).map fun p => c.put p.1 p.2 := by
  obtain ⟨name, _ | text⟩ := entry
  · rfl
  · rw [applyEntry, assign]
    simp only [RateCard.set]
    cases hfield : fieldNamed? (UpperCase.capitalize name) with
    | none => rfl
    | some f => cases hcheck : check f.kind text <;> simp [hcheck, Except.map, Except.mapError]

/-- An update is refused for its first entry that is refused; otherwise the texts of its entries are
put one after another. -/
lemma foldlM_applyEntry (entries : List (String × Option String)) (c : RateCard) :
    entries.foldlM applyEntry c = (entries.mapM assign).map c.putAll := by
  induction entries generalizing c with
  | nil => rfl
  | cons entry rest ih =>
    rw [List.foldlM_cons, List.mapM_cons, applyEntry_eq]
    cases assign entry with
    | error e => rfl
    | ok p =>
      simp only [Except.map, ok_bind]
      rw [ih]
      cases rest.mapM assign <;> rfl

lemma refuses_of_foldlM {entries : List (String × Option String)}
    (h : entries.foldlM applyEntry c = .error e) : ∃ entry ∈ entries, Refuses entry e := by
  rw [foldlM_applyEntry] at h
  cases hassign : entries.mapM assign with
  | ok puts =>
    rw [hassign] at h
    cases h
  | error e' =>
    rw [hassign] at h
    cases h
    obtain ⟨before, entry, after, rfl, -, hentry⟩ := mapM_eq_error_iff.mp hassign
    exact ⟨entry, List.mem_append_right _ List.mem_cons_self, assign_eq_error_iff.mp hentry⟩

/-! ### Entries in any order -/

section Order

variable {entries other : List (String × Option String)}

/-- No field is addressed by two of the entries. -/
def Separate (entries : List (String × Option String)) : Prop :=
  entries.Pairwise fun a b => ∀ f, Addresses a.1 f → ¬ Addresses b.1 f

/-- At most one of the entries is refused. -/
def RefusedOnce (entries : List (String × Option String)) : Prop :=
  ∀ a ∈ entries, ∀ b ∈ entries, ∀ e e', Refuses a e → Refuses b e' → a = b

lemma Separate.perm (h : Separate entries) (hperm : entries.Perm other) : Separate other :=
  List.Pairwise.perm h hperm fun hab f hb ha => hab f ha hb

/-- Separate entries give texts to different fields. -/
lemma Separate.nodup {puts : List (Field × String)} (h : Separate entries)
    (hassign : entries.mapM assign = .ok puts) : (puts.map (·.1)).Nodup := by
  have hputs := mapM_eq_ok_iff.mp hassign
  clear hassign
  induction hputs with
  | nil => exact List.nodup_nil
  | @cons entry put rest puts hput hrest ih =>
    obtain ⟨hfirst, hseparate⟩ := List.pairwise_cons.mp h
    refine List.nodup_cons.mpr ⟨fun hmem => ?_, ih hseparate⟩
    obtain ⟨put', hput', hfield⟩ := List.mem_map.mp hmem
    obtain ⟨entry', hentry', hassign'⟩ := Forall₂.exists_of_mem hrest.flip hput'
    have haddresses := (assign_eq_ok_iff.mp hassign').addresses
    rw [hfield] at haddresses
    exact hfirst entry' hentry' put.1 (assign_eq_ok_iff.mp hput).addresses haddresses

/-- Whether separate entries are accepted, and what they make of a card, does not
depend on their order. -/
lemma foldlM_applyEntry_perm (h : Separate entries) (hperm : entries.Perm other)
    {c after : RateCard} (hafter : entries.foldlM applyEntry c = .ok after) :
    other.foldlM applyEntry c = .ok after := by
  rw [foldlM_applyEntry] at hafter ⊢
  obtain ⟨puts, hputs, rfl⟩ := map_eq_ok_iff.mp hafter
  obtain ⟨puts', hputs', hresults⟩ := mapM_perm hperm hputs
  rw [hputs', c.putAll_perm (h.nodup hputs) hresults]
  rfl

/-- If at most one entry is refused, the error does not depend on the order, either. -/
lemma foldlM_applyEntry_perm_eq (h : Separate entries) (honce : RefusedOnce entries)
    (hperm : entries.Perm other) (c : RateCard) :
    other.foldlM applyEntry c = entries.foldlM applyEntry c := by
  cases hother : other.foldlM applyEntry c with
  | ok after => rw [foldlM_applyEntry_perm (h.perm hperm) hperm.symm hother]
  | error e' =>
    cases hentries : entries.foldlM applyEntry c with
    | ok after => cases hother.symm.trans (foldlM_applyEntry_perm h hperm hentries)
    | error e =>
      obtain ⟨a, ha, hrefuses⟩ := refuses_of_foldlM hentries
      obtain ⟨b, hb, hrefuses'⟩ := refuses_of_foldlM hother
      obtain rfl := honce a ha b (hperm.mem_iff.mpr hb) e e' hrefuses hrefuses'
      rw [hrefuses.unique hrefuses']

/-- Separate entries that were accepted are accepted again, and change nothing. -/
lemma foldlM_applyEntry_again (h : Separate entries) (hperm : entries.Perm other)
    {c after : RateCard} (hafter : entries.foldlM applyEntry c = .ok after) :
    other.foldlM applyEntry after = .ok after := by
  rw [foldlM_applyEntry] at hafter ⊢
  obtain ⟨puts, hputs, rfl⟩ := map_eq_ok_iff.mp hafter
  obtain ⟨puts', hputs', hresults⟩ := mapM_perm hperm hputs
  rw [hputs']
  exact congrArg Except.ok (c.putAll_again (h.nodup hputs) hresults)

end Order

/-- A map of names and texts is an update, too. -/
lemma setAll_eq (c : RateCard) (values : List (String × String)) :
    c.setAll values = (values.map fun entry => (entry.1, some entry.2)).foldlM applyEntry c := by
  rw [List.foldlM_map]
  rfl

/-! ### The entries of an object -/

section Members

variable {name : String} {given : Option String} {entries : List (String × Option String)}

/-- The names are in ascending order. -/
def Ascending (entries : List (String × Option String)) : Prop :=
  entries.Pairwise fun a b => a.1 < b.1

lemma Ascending.nodup (h : Ascending entries) : (entries.map (·.1)).Nodup := by
  rw [List.nodup_iff_pairwise_ne, List.pairwise_map]
  exact h.imp ne_of_lt

lemma mem_insert_iff (h : Ascending entries) :
    entry ∈ insert name given entries ↔
      entry = (name, given) ∨ entry ∈ entries ∧ entry.1 ≠ name := by
  induction entries with
  | nil => simp [insert]
  | cons first rest ih =>
    obtain ⟨key, old⟩ := first
    obtain ⟨hfirst, hrest⟩ := List.pairwise_cons.mp h
    rw [insert]
    split_ifs with hsame hless
    · subst hsame
      have hne : ∀ other ∈ rest, other.1 ≠ name := fun other hother => (hfirst other hother).ne'
      simp only [List.mem_cons]
      constructor
      · rintro (rfl | hmem)
        · exact .inl rfl
        · exact .inr ⟨.inr hmem, hne entry hmem⟩
      · rintro (rfl | ⟨rfl | hmem, hname⟩)
        · exact .inl rfl
        · exact absurd rfl hname
        · exact .inr hmem
    · have hne : ∀ other ∈ (key, old) :: rest, other.1 ≠ name := by
        refine List.forall_mem_cons.mpr ⟨hless.ne', fun other hother => ?_⟩
        exact (hless.trans (hfirst other hother)).ne'
      rw [List.mem_cons]
      exact or_congr_right (iff_self_and.mpr (hne entry))
    · rw [List.mem_cons, ih hrest, List.mem_cons]
      constructor
      · rintro (rfl | rfl | ⟨hmem, hname⟩)
        · exact .inr ⟨.inl rfl, Ne.symm hsame⟩
        · exact .inl rfl
        · exact .inr ⟨.inr hmem, hname⟩
      · rintro (rfl | ⟨rfl | hmem, hname⟩)
        · exact .inr (.inl rfl)
        · exact .inl rfl
        · exact .inr (.inr ⟨hmem, hname⟩)

lemma ascending_insert (h : Ascending entries) : Ascending (insert name given entries) := by
  induction entries with
  | nil => exact List.pairwise_singleton _ _
  | cons first rest ih =>
    obtain ⟨key, old⟩ := first
    obtain ⟨hfirst, hrest⟩ := List.pairwise_cons.mp h
    rw [insert]
    split_ifs with hsame hless
    · subst hsame
      exact List.pairwise_cons.mpr ⟨hfirst, hrest⟩
    · refine List.pairwise_cons.mpr ⟨List.forall_mem_cons.mpr ⟨hless, fun other hother => ?_⟩, h⟩
      exact hless.trans (hfirst other hother)
    · refine List.pairwise_cons.mpr ⟨fun other hother => ?_, ih hrest⟩
      rcases (mem_insert_iff hrest).mp hother with rfl | ⟨hmem, -⟩
      · exact lt_of_le_of_ne (not_lt.mp hless) (Ne.symm hsame)
      · exact hfirst other hmem

/-- The entries of an object are in ascending order, and each name has its last value. -/
lemma ofMembers_spec (members : List (String × Option String)) :
    Ascending (ofMembers members).entries ∧
      ∀ entry, entry ∈ (ofMembers members).entries ↔ lastValue members entry.1 = some entry.2 := by
  induction members using List.reverseRecOn with
  | nil => exact ⟨.nil, fun entry => by simp [ofMembers]⟩
  | append_singleton before member ih =>
    have hentries : (ofMembers (before ++ [member])).entries =
        insert member.1 member.2 (ofMembers before).entries := by
      rw [ofMembers, List.foldl_append]
      rfl
    obtain ⟨hascending, hmem⟩ := ih
    rw [hentries]
    refine ⟨ascending_insert hascending, fun entry => ?_⟩
    obtain ⟨name, given⟩ := entry
    obtain ⟨key, new⟩ := member
    rw [mem_insert_iff hascending, hmem, lastValue_append, lastValue_singleton]
    by_cases hname : name = key
    · simp [hname, eq_comm]
    · simp [hname]

lemma ascending_ofMembers (members : List (String × Option String)) :
    Ascending (ofMembers members).entries :=
  (ofMembers_spec members).1

lemma mem_ofMembers_iff {members : List (String × Option String)} :
    entry ∈ (ofMembers members).entries ↔ lastValue members entry.1 = some entry.2 :=
  (ofMembers_spec members).2 entry

/-- If no name is given twice, the entries are the members. -/
lemma perm_ofMembers {members : List (String × Option String)} (h : (members.map (·.1)).Nodup) :
    (ofMembers members).entries.Perm members := by
  refine (List.perm_ext_iff_of_nodup (List.Nodup.of_map _ (ascending_ofMembers members).nodup)
    (List.Nodup.of_map _ h)).mpr fun entry => ?_
  rw [mem_ofMembers_iff, lastValue_eq_some_iff h]

end Members

end CardUpdate

end ClusterCost
