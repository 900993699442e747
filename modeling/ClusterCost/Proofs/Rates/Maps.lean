import ClusterCost.Proofs.Rates.Import

/-!
# Updates by maps

A map has its entries in no order. What an update by a map comes to does not depend on the order
in which the entries are taken, if no two of its names address one field; the error may, but
only if more than one entry is refused. Then it is also what an object with these entries comes
to (`Store.update_by_map`).
-/

namespace ClusterCost

open Json (Tree)

/-- The entries of a map as those of an update. -/
def CardUpdate.ofTexts (values : List (String × String)) : List (String × Option String) :=
  values.map fun v => (v.1, some v.2)

open CardUpdate (ofTexts Separate RefusedOnce)

namespace RateCard

variable {c after : RateCard} {values order again : List (String × String)}

lemma setAll_ofTexts (c : RateCard) (values : List (String × String)) :
    c.setAll values = (ofTexts values).foldlM CardUpdate.applyEntry c :=
  CardUpdate.setAll_eq c values

lemma setAll_perm (h : Separate (ofTexts values)) (hperm : values.Perm order)
    (hafter : c.setAll values = .ok after) : c.setAll order = .ok after := by
  rw [setAll_ofTexts] at hafter ⊢
  exact CardUpdate.foldlM_applyEntry_perm h (hperm.map _) hafter

/-- The order tells at most which error there is. -/
lemma setAll_perm_cases (h : Separate (ofTexts values)) (hperm : values.Perm order) (c : RateCard) :
    (∃ after, c.setAll values = .ok after ∧ c.setAll order = .ok after) ∨
      ∃ e e', c.setAll values = .error e ∧ c.setAll order = .error e' := by
  cases hvalues : c.setAll values with
  | ok after => exact .inl ⟨after, rfl, setAll_perm h hperm hvalues⟩
  | error e =>
    cases horder : c.setAll order with
    | ok after => cases hvalues.symm.trans (setAll_perm (h.perm (hperm.map _)) hperm.symm horder)
    | error e' => exact .inr ⟨e, e', rfl, rfl⟩

lemma setAll_again (h : Separate (ofTexts values)) (hperm : values.Perm again)
    (hafter : c.setAll values = .ok after) : after.setAll again = .ok after := by
  rw [setAll_ofTexts] at hafter ⊢
  exact CardUpdate.foldlM_applyEntry_again h (hperm.map _) hafter

end RateCard

/-- The provider leaves the update to its store. -/
lemma Provider.update_store (p : Provider) (files : Files)
    (edit : RateCard → Except PricingError RateCard) :
    ((p.update files edit).1, (p.update files edit).2.1.store, (p.update files edit).2.2) =
      p.store.update files edit := by
  rw [update]
  obtain ⟨result, store, after⟩ := p.store.update files edit
  cases result <;> rfl

/-- An object of the entries of a map sets them in the order of the names. -/
lemma Provider.editOfBody_of_map {values : Dictionary String} {body : CardUpdate.Body}
    {members : List (String × Tree)} (hbody : body.Holds members)
    (hmembers : members.Perm (values.entries.map fun v => (v.1, .text (some v.2)))) :
    ∃ entries, (ofTexts values.entries).Perm entries ∧
      ∀ c, editOfBody body c = entries.foldlM CardUpdate.applyEntry c := by
  have hperm : (members.map fun m => (m.1, m.2.text?)).Perm (ofTexts values.entries) := by
    have hmap := hmembers.map fun m => (m.1, m.2.text?)
    rwa [List.map_map] at hmap
  have hnodup : ((members.map fun m => (m.1, m.2.text?)).map (·.1)).Nodup := by
    refine (hperm.map (·.1)).nodup_iff.mpr ?_
    rw [ofTexts, List.map_map]
    exact values.nodup
  refine ⟨_, ((CardUpdate.perm_ofMembers hnodup).trans hperm).symm, fun c => ?_⟩
  rw [editOfBody, CardUpdate.ofBody_eq_ok_iff.mpr ⟨members, hbody, rfl⟩]
  rfl

namespace Store

variable {s : Store} {files : Files}

section Maps

variable {values order again : List (String × String)}

lemma update_toOption_of_perm (hw : s.Writable files) (h : Separate (ofTexts values))
    (hperm : values.Perm order) :
    (s.update files (·.setAll order)).1.toOption = (s.update files (·.setAll values)).1.toOption ∧
    (s.update files (·.setAll order)).2 = (s.update files (·.setAll values)).2 := by
  obtain ⟨after, hvalues, horder⟩ | ⟨e, e', hvalues, horder⟩ :=
    RateCard.setAll_perm_cases h hperm s.card
  · rw [update_of_ok hw horder, update_of_ok hw hvalues]
    exact ⟨rfl, rfl⟩
  · rw [update_of_error horder, update_of_error hvalues]
    exact ⟨rfl, rfl⟩

lemma update_eq_of_perm (h : Separate (ofTexts values)) (honce : RefusedOnce (ofTexts values))
    (hperm : values.Perm order) :
    s.update files (·.setAll order) = s.update files (·.setAll values) := by
  refine update_congr ?_
  simp only [RateCard.setAll_ofTexts]
  exact CardUpdate.foldlM_applyEntry_perm_eq h honce (hperm.map _) s.card

/-- After an update the card can be set again, and its file is written with the same text. -/
lemma update_again (hw : s.Writable files) (h : Separate (ofTexts order)) (hperm : order.Perm again)
    {c : RateCard} (hc : (s.update files (·.setAll order)).1 = .ok c) : let first :=
  (s.update files (·.setAll order)).2
    let second := first.1.update first.2 (·.setAll again)
    second.1 = .ok c ∧ second.2.1 = first.1 ∧ ∀ path, s.path = some path → second.2.2.read path =
      first.2.read path := by
  cases hresult : s.card.setAll order with
  | error e =>
    rw [update_of_error hresult] at hc
    cases hc
  | ok after =>
    rw [update_of_ok hw hresult] at hc ⊢
    cases hc
    have hwritable := hw.again c
    simp only
    rw [update_of_ok hwritable (RateCard.setAll_again h hperm hresult)]
    refine ⟨rfl, rfl, fun path hpath => ?_⟩
    have hread := read_of_keep_ok (hw.keep c) path hpath
    exact (read_of_keep_ok (hwritable.keep c) path hpath).trans hread.symm

end Maps

/-- A provider that takes an object of the entries of a map does with its store what
the map does. -/
lemma update_of_object {values : Dictionary String} (h : Separate (ofTexts values.entries))
    (honce : RefusedOnce (ofTexts values.entries))
    {p : Provider} (hp : p.store = s) {body : CardUpdate.Body} {members : List (String × Tree)}
    (hbody : body.Holds members)
    (hmembers : members.Perm (values.entries.map fun v => (v.1, .text (some v.2)))) :
    ((p.update files (Provider.editOfBody body)).1,
      (p.update files (Provider.editOfBody body)).2.1.store,
      (p.update files (Provider.editOfBody body)).2.2) = s.update files (·.setAll
        values.entries) := by
  subst hp
  obtain ⟨entries, hentries, hedit⟩ := Provider.editOfBody_of_map hbody hmembers
  rw [Provider.update_store]
  refine update_congr ?_
  simp only [hedit, RateCard.setAll_ofTexts]
  exact CardUpdate.foldlM_applyEntry_perm_eq h honce hentries p.store.card

/-- An update by a map does not depend on the order of the entries. If at most one of them is
refused, this also holds of the error, and an object of the same entries comes to the same. After a
success, the same update succeeds again and leaves the card and its file as they are. -/
theorem update_by_map (hw : s.Writable files) {values : Dictionary String}
    (h : Separate (ofTexts values.entries)) :
    (∀ order, values.entries.Perm order →
      (s.update files (·.setAll order)).1.toOption =
        (s.update files (·.setAll values.entries)).1.toOption ∧
        (s.update files (·.setAll order)).2 = (s.update files (·.setAll values.entries)).2) ∧
    (RefusedOnce (ofTexts values.entries) → ∀ order, values.entries.Perm order →
      s.update files (·.setAll order) = s.update files (·.setAll values.entries) ∧
        ∀ p : Provider, p.store = s → ∀ body members, body.Holds members →
          members.Perm (values.entries.map fun v => (v.1, .text (some v.2))) →
          ((p.update files (Provider.editOfBody body)).1,
            (p.update files (Provider.editOfBody body)).2.1.store,
            (p.update files (Provider.editOfBody body)).2.2) = s.update files (·.setAll order)) ∧
    ∀ order again c, values.entries.Perm order → values.entries.Perm again →
      (s.update files (·.setAll order)).1 = .ok c →
      let first := (s.update files (·.setAll order)).2
      let second := first.1.update first.2 (·.setAll again)
      second.1 = .ok c ∧ second.2.1 = first.1 ∧
      ∀ path, s.path = some path → second.2.2.read path = first.2.read path := by
  refine ⟨fun order horder => update_toOption_of_perm hw h horder, fun honce order horder => ?_,
    fun order again c horder hagain hc => ?_⟩
  · have hsame : s.update files (·.setAll order) = s.update files (·.setAll values.entries) :=
      update_eq_of_perm h honce horder
    refine ⟨hsame, fun p hp body members hbody hmembers => ?_⟩
    rw [hsame, update_of_object h honce hp hbody hmembers]
  · exact update_again hw (h.perm (horder.map _)) (horder.symm.trans hagain) hc

/-- Two texts for a store with a file. -/
theorem update_by_map_file :
    let s : Store := ⟨some "/d/p", .default⟩
    let files : Files := .empty "/d"
    let values : Dictionary String := ⟨[("gpuLabel", "a"), ("description", "b")], by decide⟩
    let first := s.update files (·.setAll [("description", "b"), ("gpuLabel", "a")])
    s.Writable files ∧ Separate (ofTexts values.entries) ∧
      first.1.toOption = (s.update files (·.setAll values.entries)).1.toOption ∧
        (first.2.1.update first.2.2 (·.setAll values.entries)).2.2.read "/d/p" =
          first.2.2.read "/d/p" := by
  intro s files values first
  have hw : s.Writable files := by
    have hstands : Files.Stands files "/d" := ⟨rfl, rfl⟩
    have hfolder : makeFolderOf "/d/p" files = (.ok (), files) := by
      rw [makeFolderOf, show Files.parent? "/d/p" = some "/d" from rfl]
      simp only [Files.makeFolders, Files.makeFoldersFrom_of_stands hstands]
      rfl
    have hopened : files.opened "/d/p" = .ok ["p"] :=
      Files.opened_eq_ok_iff.mpr ⟨rfl, Files.locate_in_root rfl, by rintro ⟨⟩, rfl⟩
    have hkept : s.keep s.card files = (.ok (), _) :=
      persist_eq_ok_iff.mpr ⟨files, hfolder, Files.write_eq_ok_iff.mpr ⟨_, hopened, rfl, rfl⟩⟩
    exact ⟨congrArg Prod.fst hkept, fun _ => by simp [Files.Faultless, files, Files.empty]⟩
  have hsep : Separate (ofTexts values.entries) := by
    have hfirst : RateCard.Addresses "gpuLabel" .gpuLabel := RateCard.addresses_key .gpuLabel
    have hsecond : RateCard.Addresses "description" .description :=
      RateCard.addresses_key .description
    refine List.pairwise_pair.mpr fun f hf hf' => ?_
    cases (hf.unique hfirst).symm.trans (hf'.unique hsecond)
  have hperm : values.entries.Perm [("description", "b"), ("gpuLabel", "a")] := .swap _ _ _
  obtain ⟨hany, -, hagain⟩ := update_by_map hw hsep
  obtain ⟨hresult, -⟩ := hany _ hperm
  have hfirst : first.1 = .ok ((s.card.put .description "b").put .gpuLabel "a") := by
    rw [show first = _ from update_of_ok hw rfl]
  obtain ⟨-, -, hread⟩ := hagain _ values.entries _ hperm (.refl _) hfirst
  exact ⟨hw, hsep, hresult, hread "/d/p" rfl⟩

end Store

end ClusterCost
