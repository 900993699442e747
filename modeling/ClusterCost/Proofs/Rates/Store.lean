import ClusterCost.Proofs.Files
import ClusterCost.Proofs.Outcome
import ClusterCost.Rates.Store

/-!
# Laws of the store

A change of the card has one of four outcomes, and `UpdateOutcome` says all there is to say of each:
the edit was refused, the file could not be opened for the new card, the file was opened and could
not be filled, or the new card is in the store and in the file. Whatever needs an invariant of the
store gets it from `update_outcome` by cases.
-/

namespace ClusterCost.Store

/-! ### Keeping a card in a file -/

lemma makeFolderOf_extends (path : String) (files : Files) :
    Files.Extends files (makeFolderOf path files).2 := by
  rw [makeFolderOf]
  cases Files.parent? path with
  | none => exact .refl files
  | some above =>
    simp only
    split_ifs
    · exact .refl files
    · exact Files.extends_makeFolders files above

lemma makeFolderOf_error {path : String} {files : Files} {e : ConfigError}
    (h : (makeFolderOf path files).1 = .error e) :
    ∃ above error, e = .write above error ∧ ∀ cause, error ≠ .device cause := by
  rw [makeFolderOf] at h
  cases ha : Files.parent? path with
  | none => simp [ha] at h
  | some above =>
    simp only [ha] at h
    split_ifs at h
    cases hm : (files.makeFolders above).1 with
    | ok done => simp [hm, Except.mapError] at h
    | error error =>
      simp only [hm, Except.mapError, Except.error.injEq] at h
      refine ⟨above, error, h.symm, ?_⟩
      rintro cause rfl
      exact Files.makeFoldersFrom_ne_device _ _ _ hm

/-- What keeping a card in a file comes to: its result and the files after it. Where the card cannot
be kept, some folders may have been made. -/
inductive PersistOutcome (path : String) (card : RateCard) (files : Files) :
    Except ConfigError Unit → Files → Prop where
  | refused (place : String) (error : FileError) (after : Files)
      (h : ∀ cause, error ≠ .device cause)
      (hfiles : Files.Extends files after) :
      PersistOutcome path card files (.error (.write place error)) after
  | brokenOff (fault : WriteFault) (after : Files) (h : files.nextFault = some fault)
      (hfills : Files.Fills files after path (fault.left card.toJson.pretty)) :
      PersistOutcome path card files (.error (.write path (.device fault.cause))) after
  | kept (after : Files) (hfills : Files.Fills files after path card.toJson.pretty) :
      PersistOutcome path card files (.ok ()) after

theorem persist_outcome (path : String) (card : RateCard) (files : Files) :
    PersistOutcome path card files (persist path card files).1 (persist path card files).2 := by
  have hfolders := makeFolderOf_extends path files
  have hcause := @makeFolderOf_error path files
  rw [persist]
  cases hm : makeFolderOf path files with
  | mk made folders =>
    rw [hm] at hfolders hcause
    cases made with
    | error e =>
      obtain ⟨above, error, rfl, hdevice⟩ := hcause rfl
      exact .refused above error folders hdevice hfolders
    | ok done =>
      have hout := Files.write_outcome folders path card.toJson.pretty
      have hfault : folders.nextFault = files.nextFault := by
        rw [Files.nextFault, Files.nextFault, hfolders.faults_eq]
      simp only
      generalize folders.write path card.toJson.pretty = written at hout ⊢
      obtain ⟨result, after⟩ := written
      cases hout with
      | refused e hopened =>
        refine .refused path e _ ?_ hfolders
        rintro cause rfl
        exact Files.opened_ne_device hopened
      | brokenOff fault _ h hfills =>
        exact .brokenOff fault _ (hfault ▸ h) (hfills.of_extends hfolders)
      | done _ h hfills => exact .kept _ (hfills.of_extends hfolders)

lemma persist_eq_ok_iff {path : String} {card : RateCard} {files after : Files} :
    persist path card files = (.ok (), after) ↔
      ∃ folders, makeFolderOf path files = (.ok (), folders) ∧
        folders.write path card.toJson.pretty = (.ok (), after) := by
  rw [persist]
  cases makeFolderOf path files with
  | mk made folders =>
    cases made with
    | error e => simp
    | ok done =>
      simp only [Prod.mk.injEq, true_and, exists_eq_left', mapError_eq_ok_iff]
      rw [Prod.ext_iff]

/-- A card is not kept if its write breaks off. -/
lemma persist_of_fault {path : String} {files folders : Files} {trail : Trail} {fault : WriteFault}
    (hfolders : makeFolderOf path files = (.ok (), folders))
    (hopened : folders.opened path = .ok trail)
    (hfault : folders.nextFault = some fault) (card : RateCard) :
    persist path card files = (.error (.write path (.device fault.cause)),
      folders.settled.put trail (.file (fault.left card.toJson.pretty))) := by
  simp only [persist, hfolders, Files.write_of_fault hopened hfault]
  rfl

/-- A card that was kept is what the file holds. -/
lemma read_of_persist_ok {path : String} {card : RateCard} {files : Files}
    (h : (persist path card files).1 = .ok ()) :
    (persist path card files).2.read path = .ok card.toJson.pretty := by
  have hout := persist_outcome path card files
  rw [h] at hout
  cases hout with
  | kept _ hfills => exact hfills.read

/-- Whether a card can be kept does not depend on the card. -/
lemma persist_of_persist {path : String} {card : RateCard} {files : Files}
    (h : (persist path card files).1 = .ok ()) (other : RateCard) :
    (persist path other files).1 = .ok () := by
  obtain ⟨folders, hfolders, hw⟩ := persist_eq_ok_iff.mp (Prod.ext h rfl)
  have hother := Files.write_of_write (congrArg Prod.fst hw) other.toJson.pretty
  rw [persist_eq_ok_iff.mpr ⟨folders, hfolders, Prod.ext hother rfl⟩]

/-- Folders that were made are left as they are. -/
lemma makeFolderOf_again {path : String} {files made more : Files}
    (h : makeFolderOf path files = (.ok (), made)) (hroot : more.root = made.root)
    (hfolders : ∀ trail, made.entry? trail = some .folder → more.entry? trail = some .folder) :
    makeFolderOf path more = (.ok (), more) := by
  rw [makeFolderOf] at h ⊢
  cases ha : Files.parent? path with
  | none => rfl
  | some above =>
    simp only [ha] at h ⊢
    split_ifs at h ⊢ with hempty
    · rfl
    · obtain ⟨hmade, rfl⟩ := Prod.mk.inj h
      have hok : files.makeFolders above = (.ok (), (files.makeFolders above).2) :=
        Prod.ext (mapError_eq_ok_iff.mp hmade) rfl
      have hstands := Files.stands_of_makeFolders (Files.withoutEndSlashes_of_parent? ha)
        (by simpa using hempty) hok
      rw [Files.makeFolders, Files.makeFoldersFrom_of_stands (hstands.of_folders hroot hfolders)]
      rfl

/-- After a card was kept, so can be any other, if no write breaks off. -/
lemma persist_again {path : String} {card : RateCard} {files : Files} (hfaultless : files.Faultless)
    (h : (persist path card files).1 = .ok ()) (other : RateCard) :
    (persist path other (persist path card files).2).1 = .ok () := by
  have hkept : persist path card files = (.ok (), (persist path card files).2) := Prod.ext h rfl
  generalize (persist path card files).2 = kept at hkept ⊢
  obtain ⟨folders, hfolders, hw⟩ := persist_eq_ok_iff.mp hkept
  have hextends := makeFolderOf_extends path files
  rw [hfolders] at hextends
  have hfaultless' : folders.Faultless := by rwa [Files.Faultless, hextends.faults_eq]
  have hmade : makeFolderOf path kept = (.ok (), kept) := by
    have hout := Files.write_outcome folders path card.toJson.pretty
    rw [hw] at hout
    cases hout with
    | done _ _ hfills => exact makeFolderOf_again hfolders hfills.root_eq hfills.folder
  have hagain := Files.write_again hfaultless' (congrArg Prod.fst hw) other.toJson.pretty
  rw [hw] at hagain
  rw [persist_eq_ok_iff.mpr ⟨kept, hmade, Prod.ext hagain rfl⟩]

lemma faultless_persist {files : Files} (h : files.Faultless) (path : String) (card : RateCard) :
    (persist path card files).2.Faultless := by
  have hextends := makeFolderOf_extends path files
  rw [persist]
  cases hm : makeFolderOf path files with
  | mk made folders =>
    rw [hm] at hextends
    have hfolders : folders.Faultless := by rwa [Files.Faultless, hextends.faults_eq]
    cases made with
    | error e => exact hfolders
    | ok done => exact hfolders.write path card.toJson.pretty

/-- The store can keep cards: its file, if it has one, can be written, and no write breaks off. -/
structure Writable (s : Store) (files : Files) : Prop where
  kept : (s.keep s.card files).1 = .ok ()
  faultless : s.path.isSome → files.Faultless

lemma Writable.keep {s : Store} {files : Files} (h : s.Writable files) (card : RateCard) :
    (s.keep card files).1 = .ok () := by
  have hkept := h.kept
  rw [Store.keep] at hkept ⊢
  cases hp : s.path with
  | none => rfl
  | some path =>
    rw [hp] at hkept
    exact persist_of_persist hkept card

/-- A store that took a card can take another. -/
lemma Writable.again {s : Store} {files : Files} (h : s.Writable files) (card : RateCard) :
    Writable { s with card } (s.keep card files).2 := by
  have hkeep := h.keep card
  have hfaultless := h.faultless
  cases hp : s.path with
  | none => exact ⟨by simp [Store.keep], by simp⟩
  | some path =>
    have hfaults := hfaultless (by simp [hp])
    simp only [Store.keep, hp] at hkeep
    refine ⟨?_, fun _ => ?_⟩
    · simp only [Store.keep, hp]
      exact persist_again hfaults hkeep card
    · simp only [Store.keep, hp]
      exact faultless_persist hfaults path card

/-! ### Changing the card -/

section Update

variable {s : Store} {files : Files} {edit other : RateCard → Except PricingError RateCard}

/-- Of an edit only what it makes of the current card matters. -/
lemma update_congr (h : edit s.card = other s.card) :
    s.update files edit = s.update files other := by
  rw [update, update, h]

lemma update_of_error {e : PricingError} (h : edit s.card = .error e) :
    s.update files edit = (.error e, s, files) := by
  rw [update, h]

lemma update_of_ok (hw : s.Writable files) {card : RateCard} (h : edit s.card = .ok card) :
    s.update files edit = (.ok card, { s with card }, (s.keep card files).2) := by
  have hkept : s.keep card files = (.ok (), (s.keep card files).2) := Prod.ext (hw.keep card) rfl
  simp only [update, h]
  rw [hkept]

/-- An update on a full device empties the file and fails. -/
lemma update_fullDevice (hpath : s.path = some "/d/p") {card : RateCard}
    (h : edit s.card = .ok card) :
    (s.update .fullDevice edit).1 = .error (.config (.write "/d/p" (.device .noSpace))) ∧
    (s.update .fullDevice edit).2.2.read "/d/p" = .ok [] := by
  have hstands : Files.Stands .fullDevice "/d" := ⟨rfl, rfl⟩
  have hfolder : makeFolderOf "/d/p" .fullDevice = (.ok (), .fullDevice) := by
    rw [makeFolderOf, show Files.parent? "/d/p" = some "/d" from rfl]
    simp only [Files.makeFolders, Files.makeFoldersFrom_of_stands hstands]
    rfl
  have hkeep := persist_of_fault hfolder Files.opened_fullDevice rfl card
  have hfills := Files.fills_put Files.opened_fullDevice []
  simp only [update, h, keep, hpath, hkeep]
  exact ⟨trivial, hfills.read⟩

end Update

lemma read_of_keep_ok {s : Store} {card : RateCard} {files : Files}
    (h : (s.keep card files).1 = .ok ()) :
    ∀ path, s.path = some path → (s.keep card files).2.read path = .ok card.toJson.pretty := by
  intro path hp
  rw [keep, hp] at h ⊢
  exact read_of_persist_ok h

/-- What a change of the card by an edit comes to: its result, and the store and the
files after it. -/
inductive UpdateOutcome (s : Store) (files : Files)
    (edit : RateCard → Except PricingError RateCard) :
    Except PricingError RateCard → Store → Files → Prop where
  | refused (e : PricingError) (h : edit s.card = .error e) :
      UpdateOutcome s files edit (.error e) s files
  | notOpened (card : RateCard) (place : String) (error : FileError) (after : Files)
      (h : edit s.card = .ok card)
      (hkeep : (s.keep card files).1 = .error (.write place error))
      (hdevice : ∀ cause, error ≠ .device cause)
      (hfiles : Files.Extends files after) :
      UpdateOutcome s files edit (.error (.config (.write place error))) s after
  | brokenOff (card : RateCard) (path : String) (fault : WriteFault) (after : Files)
      (h : edit s.card = .ok card)
      (hpath : s.path = some path)
      (hkeep : (s.keep card files).1 = .error (.write path (.device fault.cause)))
      (hfault : files.nextFault = some fault)
      (hfills : Files.Fills files after path (fault.left card.toJson.pretty)) :
      UpdateOutcome s files edit (.error (.config (.write path (.device fault.cause)))) s after
  | accepted (card : RateCard) (after : Files) (h : edit s.card = .ok card)
      (hkeep : (s.keep card files).1 = .ok ())
      (hread : ∀ path, s.path = some path → after.read path = .ok card.toJson.pretty) :
      UpdateOutcome s files edit (.ok card) { s with card } after

theorem update_outcome (s : Store) (files : Files)
    (edit : RateCard → Except PricingError RateCard) :
    UpdateOutcome s files edit (s.update files edit).1 (s.update files edit).2.1
      (s.update files edit).2.2 := by
  rw [update]
  cases hedit : edit s.card with
  | error e => exact .refused e hedit
  | ok card =>
    simp only
    have hread := @read_of_keep_ok s card files
    obtain hp | ⟨path, hp⟩ := Option.eq_none_or_eq_some s.path
    · have hkeep : s.keep card files = (.ok (), files) := by simp only [keep, hp]
      rw [hkeep] at hread ⊢
      exact .accepted card files hedit (congrArg Prod.fst hkeep) (hread rfl)
    · have hout := persist_outcome path card files
      have hkeep : s.keep card files = persist path card files := by simp only [keep, hp]
      rw [← hkeep] at hout
      generalize hkept : s.keep card files = kept at hout hread ⊢
      obtain ⟨result, after⟩ := kept
      have hfst := congrArg Prod.fst hkept
      cases hout with
      | refused place error _ h hfiles =>
        exact .notOpened card place error after hedit hfst h hfiles
      | brokenOff fault _ h hfills => exact .brokenOff card path fault after hedit hp hfst h hfills
      | kept _ hfills => exact .accepted card after hedit hfst (hread rfl)

end ClusterCost.Store
