import ClusterCost.Proofs.Rates.Loading
import ClusterCost.Proofs.Rates.Store
import ClusterCost.Rates.Update

/-!
# The store and its file

In a run that starts with a load, and in which nobody else writes the file, the file can be loaded
at any time, and what is loaded is the store as it is, unless the last write to the file has broken
off (`load_of_run`). A write that breaks off has already emptied the file: all that is left then is
a beginning of the text of a card which has been refused, and this cannot be loaded (`Torn`).
-/

namespace ClusterCost.Store

/-! ### Runs -/

/-- Whether the file is whole after an update: it is if the update was accepted, and it is not if
its write broke off. Otherwise the file has not been touched. -/
def wholeAfter (whole : Bool) (s : Store) (files : Files)
    (edit : RateCard → Except PricingError RateCard) : Bool :=
  match edit s.card, (s.update files edit).1 with
  | .error _, _ => whole
  | .ok _, .ok _ => true
  | .ok _, .error (.config (.write _ (.device _))) => false
  | .ok _, .error _ => whole

/-- The states of a store that was loaded from a path, with the files around it and whether its own
file is whole. A run goes on with an update of the card, accepted or not, or with a change of the
files by somebody else that leaves this file as it is. -/
inductive Run (path : String) : (whole : Bool) → Store → Files → Prop
  | load {files : Files} {loaded : Loaded} (h : (Store.load path files).1 = .ok loaded) :
      Run path true loaded.store (Store.load path files).2
  | update {whole : Bool} {s : Store} {files : Files} (run : Run path whole s files)
      (edit : RateCard → Except PricingError RateCard) :
      Run path (wholeAfter whole s files edit) (s.update files edit).2.1 (s.update files edit).2.2
  | elsewhere {whole : Bool} {s : Store} {files after : Files} (run : Run path whole s files)
      (h : after.read path = files.read path) : Run path whole s after

/-- The store has the card that is read from the file. -/
structure Mirrors (s : Store) (path : String) (files : Files) : Prop where
  present : ∃ content, files.read path = .ok content
  card : readCard path files = .ok s.card

/-- The file has a beginning of the text of a card, and not all of it. -/
def Torn (path : String) (files : Files) : Prop :=
  ∃ (card : RateCard) (left : Bytes), left <+: card.toJson.pretty ∧ left ≠ card.toJson.pretty ∧
    files.read path = .ok left

/-! ### Reading the file -/

lemma readCard_congr {path : String} {files after : Files} (h : after.read path = files.read path) :
    readCard path after = readCard path files := by
  rw [readCard, readCard, Files.readText, Files.readText, h]

lemma read_of_readCard {path : String} {files : Files} {card : RateCard}
    (h : readCard path files = .ok card) : ∃ content, files.read path = .ok content := by
  cases hr : files.read path with
  | ok content => exact ⟨content, rfl⟩
  | error e =>
    have htext : files.readText path = .error e := by
      rw [Files.readText, hr]
      rfl
    rw [readCard, htext] at h
    cases h

lemma Mirrors.of_read {s : Store} {path : String} {files : Files}
    (hread : files.read path = .ok s.card.toJson.pretty) : Mirrors s path files :=
  ⟨⟨_, hread⟩, readCard_pretty hread⟩

lemma Mirrors.congr {s : Store} {path : String} {files after : Files} (hs : Mirrors s path files)
    (h : after.read path = files.read path) : Mirrors s path after := by
  refine ⟨?_, ?_⟩
  · rw [h]
    exact hs.present
  · rw [readCard_congr h]
    exact hs.card

/-- No card is read from a torn file. -/
lemma Torn.readCard_error {path : String} {files : Files} (h : Torn path files) :
    ∃ e, readCard path files = .error e := by
  obtain ⟨card, left, hprefix, hne, hread⟩ := h
  cases hcard : readCard path files with
  | error e => exact ⟨e, rfl⟩
  | ok found =>
    obtain ⟨text, hfound, -⟩ := bind_eq_ok_iff.mp hcard
    have htext := mapError_eq_ok_iff.mp hfound
    obtain ⟨t, hsays, -⟩ := (readCard_eq_ok_iff htext).mp hcard
    rw [Files.encode_of_readText hread htext] at hsays
    exact absurd hsays (card.not_says_of_prefix hprefix hne t)

/-! ### Steps -/

/-- What is known of the file in a run: if it is whole it mirrors the store, and else it is torn. -/
structure Kept (path : String) (whole : Bool) (s : Store) (files : Files) : Prop where
  path_eq : s.path = some path
  mirrors : whole = true → Mirrors s path files
  torn : whole = false → Torn path files

/-- What a load gives is in the file, be it that it was there or that it has been written. -/
lemma kept_load {path : String} {files : Files} {loaded : Loaded}
    (h : (load path files).1 = .ok loaded) : Kept path true loaded.store (load path files).2 := by
  rw [load] at h ⊢
  split_ifs at h ⊢ with hhas
  · cases hc : readCard path files with
    | error e => simp [hc, Except.map] at h
    | ok card =>
      simp only [hc, Except.map, Except.ok.injEq] at h
      subst h
      exact ⟨rfl, fun _ => ⟨read_of_readCard hc, hc⟩, by simp⟩
  · simp only at h ⊢
    cases hp : (persist path .default files).1 with
    | error e => simp [hp, Except.map] at h
    | ok done =>
      simp only [hp, Except.map, Except.ok.injEq] at h
      subst h
      exact ⟨rfl, fun _ => .of_read (read_of_persist_ok hp), by simp⟩

/-- A file that holds what it did is still what it was. -/
lemma Kept.congr {path : String} {whole : Bool} {s : Store} {files after : Files}
    (hs : Kept path whole s files) (h : after.read path = files.read path) :
    Kept path whole s after := by
  refine ⟨hs.path_eq, fun hwhole => (hs.mirrors hwhole).congr h, fun hwhole => ?_⟩
  obtain ⟨card, left, hprefix, hne, hread⟩ := hs.torn hwhole
  exact ⟨card, left, hprefix, hne, h.trans hread⟩

/-- There is a file, whole or not. -/
lemma Kept.present {path : String} {whole : Bool} {s : Store} {files : Files}
    (hs : Kept path whole s files) : ∃ content, files.read path = .ok content := by
  cases whole with
  | true => exact (hs.mirrors rfl).present
  | false =>
    obtain ⟨card, left, -, -, hread⟩ := hs.torn rfl
    exact ⟨left, hread⟩

/-- What an update does to the file is told by its result. -/
lemma Kept.update {path : String} {whole : Bool} {s : Store} {files : Files}
    (hs : Kept path whole s files) (edit : RateCard → Except PricingError RateCard) :
    Kept path (wholeAfter whole s files edit) (s.update files edit).2.1
      (s.update files edit).2.2 := by
  have hout := update_outcome s files edit
  rw [wholeAfter]
  generalize s.update files edit = updated at hout ⊢
  obtain ⟨result, store, after⟩ := updated
  cases hout with
  | refused e h =>
    simp only [h]
    exact hs
  | notOpened card place error _ h hkeep hdevice hfiles =>
    obtain ⟨content, hread⟩ := hs.present
    have hsame := hs.congr ((hfiles.read hread).trans hread.symm)
    cases error with
    | device cause => exact absurd rfl (hdevice cause)
    | _ =>
      simp only [h]
      exact hsame
  | brokenOff card broken fault _ h hpath hkeep hfault hfills =>
    obtain rfl : path = broken := Option.some.inj (hs.path_eq.symm.trans hpath)
    simp only [h]
    refine ⟨hs.path_eq, by simp, fun _ => ⟨card, _, fault.left_prefix _, ?_, hfills.read⟩⟩
    exact fault.left_ne card.pretty_ne_nil
  | accepted card _ h hkeep hread =>
    simp only [h]
    exact ⟨hs.path_eq, fun _ => .of_read (hread path hs.path_eq), by simp⟩

/-! ### Loading the file again -/

/-- A file that mirrors the store is loaded as it is. -/
lemma load_of_mirrors {s : Store} {path : String} {files : Files} (hpath : s.path = some path)
    (hs : Mirrors s path files) : load path files = (.ok ⟨s, .loadedCard path⟩, files) := by
  obtain ⟨content, hread⟩ := hs.present
  obtain ⟨held, card⟩ := s
  obtain rfl : held = some path := hpath
  rw [load, if_pos (Files.has_of_read hread), hs.card]
  rfl

/-- A torn file is not loaded, and it stays as it is. -/
lemma load_of_torn {path : String} {files : Files} (h : Torn path files) :
    ∃ e, load path files = (.error e, files) := by
  obtain ⟨e, he⟩ := h.readCard_error
  obtain ⟨card, left, -, -, hread⟩ := h
  refine ⟨e, ?_⟩
  rw [load, if_pos (Files.has_of_read hread), he]
  rfl

/-! ### Whole runs -/

lemma kept_of_run {path : String} {whole : Bool} {s : Store} {files : Files}
    (run : Run path whole s files) : Kept path whole s files := by
  induction run with
  | load h => exact kept_load h
  | update run edit ih => exact ih.update edit
  | elsewhere run h ih => exact ih.congr h

/-- At any time of a run the file can be loaded if it is whole: this gives the store as it is and
leaves the files as they are. After a write that broke off, and until the next one that does not,
the file holds a beginning of a card, and it cannot be loaded. -/
theorem load_of_run {path : String} {whole : Bool} {s : Store} {files : Files}
    (run : Run path whole s files) :
    (whole = true → load path files = (.ok ⟨s, .loadedCard path⟩, files)) ∧
      (whole = false → Torn path files ∧ ∃ e, load path files = (.error e, files)) := by
  have hkept := kept_of_run run
  refine ⟨fun h => load_of_mirrors hkept.path_eq (hkept.mirrors h), fun h => ?_⟩
  exact ⟨hkept.torn h, load_of_torn (hkept.torn h)⟩

/-- A file without any key is loaded, and then a text is set that needs every kind of escape. -/
theorem load_of_run_partial_file :
    let files : Files := { root := "/d", entries := [(["p"], .file [0x7B, 0x7D])] }
    let updated := update ⟨some "/d/p", .default⟩ files (·.set "description" "\"é\\\n\x01\"")
    load "/d/p" updated.2.2 = (.ok ⟨updated.2.1, .loadedCard "/d/p"⟩, updated.2.2) := by
  intro files updated
  have hread : files.read "/d/p" = .ok [0x7B, 0x7D] := Files.read_in_root rfl rfl
  have hform : Json.Text [0x7B, 0x7D] (.object []) :=
    ⟨_, [], .none _, .object (.none (.none _)), .none _⟩
  have hload : load "/d/p" files = (.ok ⟨⟨some "/d/p", .default⟩, .loadedCard "/d/p"⟩, files) := by
    rw [load, if_pos (Files.has_of_read hread), readCard_of_text hread hform .nil]
    rfl
  have hrun : Run "/d/p" true ⟨some "/d/p", .default⟩ files := by
    have hfirst := @Run.load "/d/p" files ⟨⟨some "/d/p", .default⟩, .loadedCard "/d/p"⟩
    rw [hload] at hfirst
    exact hfirst rfl
  exact (load_of_run (.update hrun _)).1 (by decide +kernel)

/-- The device is full when a card is to be written whose file was loaded before. Then the file
cannot be loaded any more. -/
theorem load_after_full_device :
    let updated := update ⟨some "/d/p", .default⟩ .fullDevice (·.set "description" "x")
    (load "/d/p" .fullDevice).1 = .ok ⟨⟨some "/d/p", .default⟩, .loadedCard "/d/p"⟩ ∧
      Run "/d/p" false updated.2.1 updated.2.2 ∧
      updated.1 = .error (.config (.write "/d/p" (.device .noSpace))) ∧
      updated.2.2.read "/d/p" = .ok [] ∧
      ∃ e, load "/d/p" updated.2.2 = (.error e, updated.2.2) := by
  intro updated
  have hload := congrArg Prod.fst load_fullDevice
  obtain ⟨hresult, hread⟩ : updated.1 = .error (.config (.write "/d/p" (.device .noSpace))) ∧
      updated.2.2.read "/d/p" = .ok [] := update_fullDevice rfl rfl
  have hrun : Run "/d/p" false updated.2.1 updated.2.2 := by
    have hfirst := Run.load hload
    rw [load_fullDevice] at hfirst
    have hnext := hfirst.update (·.set "description" "x")
    rwa [wholeAfter, hresult] at hnext
  exact ⟨hload, hrun, hresult, hread, load_of_torn ((kept_of_run hrun).torn rfl)⟩

end ClusterCost.Store
