import ClusterCost.Files
import ClusterCost.Proofs.Outcome
import ClusterCost.Proofs.Text.Utf8
import Mathlib.Data.List.DropRight
import Mathlib.Tactic.Common

/-!
# Laws of the tree of files

Making folders adds entries without touching the ones that are there (`Extends`), also where it
fails halfway. A write has one of three outcomes (`write_outcome`): it is refused before the file is
open, and then nothing has changed; it breaks off, and then the file has lost what was in it; or it
is done in full. In the last two cases only this one file is another (`Fills`).
-/

namespace ClusterCost

namespace WriteFault

variable {content : Bytes}

/-- A write that breaks off leaves a beginning of the content. -/
lemma left_prefix (f : WriteFault) (content : Bytes) : f.left content <+: content :=
  (List.take_prefix _ _).trans (List.dropLast_prefix content)

lemma length_left_lt (f : WriteFault) (h : content ≠ []) :
    (f.left content).length < content.length := by
  have hpos := List.length_pos_iff.mpr h
  rw [left]
  have htake := List.length_take_le' f.kept content.dropLast
  rw [List.length_dropLast] at htake
  omega

lemma left_ne (f : WriteFault) (h : content ≠ []) : f.left content ≠ content := by
  intro heq
  have hlt := f.length_left_lt h
  rw [heq] at hlt
  exact lt_irrefl _ hlt

end WriteFault

namespace Files

/-- The content of the file under a trail, if there is a file. -/
def content? (files : Files) (trail : Trail) : Option Bytes :=
  match files.entry? trail with
  | some (.file content) => some content
  | _ => none

/-! ### Entries -/

@[simp] lemma entry?_nil (files : Files) : files.entry? [] = some .folder := rfl

lemma entry?_of_ne_nil (files : Files) {trail : Trail} (h : trail ≠ []) :
    files.entry? trail = files.entries.lookup trail := by
  cases trail with
  | nil => exact absurd rfl h
  | cons name rest => rfl

private lemma lookup_filter_ne (entries : List (Trail × Entry)) {trail other : Trail}
    (h : other ≠ trail) : (entries.filter (·.1 != trail)).lookup other = entries.lookup other := by
  induction entries with
  | nil => rfl
  | cons entry rest ih =>
    obtain ⟨key, value⟩ := entry
    by_cases hk : key = trail
    · subst hk
      have hne : (other == key) = false := by simpa using h
      simpa [List.lookup_cons, hne] using ih
    · simp [hk, List.lookup_cons, ih]

lemma entry?_put_self (files : Files) {trail : Trail} (h : trail ≠ []) (entry : Entry) :
    Files.entry? (files.put trail entry) trail = some entry := by
  rw [entry?_of_ne_nil _ h]
  simp [put]

lemma entry?_put_of_ne (files : Files) {trail other : Trail} (h : other ≠ trail) (entry : Entry) :
    Files.entry? (files.put trail entry) other = files.entry? other := by
  by_cases hn : other = []
  · subst hn; rfl
  · rw [entry?_of_ne_nil _ hn, entry?_of_ne_nil _ hn]
    have hne : (other == trail) = false := by simpa using h
    simp only [put, List.lookup_cons, hne]
    exact lookup_filter_ne _ h

@[simp] lemma root_put (files : Files) (trail : Trail) (entry : Entry) :
    (files.put trail entry).root = files.root := rfl

/-! ### Trees with more entries -/

/-- One tree has all entries of another, and its files hold the same; it may have more folders. -/
structure Extends (files more : Files) : Prop where
  root_eq : more.root = files.root
  entry : ∀ trail e, files.entry? trail = some e → more.entry? trail = some e
  content : ∀ trail, more.content? trail = files.content? trail
  faults_eq : more.faults = files.faults

namespace Extends

protected lemma refl (files : Files) : Extends files files :=
  ⟨rfl, fun _ _ h => h, fun _ => rfl, rfl⟩

protected lemma trans {a b c : Files} (hab : Extends a b) (hbc : Extends b c) : Extends a c where
  root_eq := hbc.root_eq.trans hab.root_eq
  entry trail e h := hbc.entry trail e (hab.entry trail e h)
  content trail := (hbc.content trail).trans (hab.content trail)
  faults_eq := hbc.faults_eq.trans hab.faults_eq

end Extends

/-- A folder under a trail that names nothing is one more entry. -/
lemma extends_put_folder (files : Files) {trail : Trail} (h : files.entry? trail = none) :
    Extends files (files.put trail .folder) := by
  have hne : trail ≠ [] := by
    rintro rfl
    simp at h
  refine ⟨rfl, ?_, ?_, rfl⟩
  · intro other e he
    have ho : other ≠ trail := by
      rintro rfl
      simp [h] at he
    rw [entry?_put_of_ne _ ho]
    exact he
  · intro other
    by_cases ho : other = trail
    · subst ho
      simp [content?, entry?_put_self _ hne, h]
    · simp [content?, entry?_put_of_ne _ ho]

/-! ### Looking up -/

@[simp] lemma names?_congr {files more : Files} (h : more.root = files.root) (path : String) :
    more.names? path = files.names? path := by
  simp [names?, h]

/-- A way through folders is the same in every tree that has these folders. -/
lemma follow_congr {files more : Files}
    (h : ∀ trail, files.entry? trail = some .folder → more.entry? trail = some .folder) :
    ∀ (names : List String) {done trail : Trail}, files.follow done names = .ok trail →
      more.follow done names = .ok trail := by
  intro names
  induction names with
  | nil =>
    intro done trail ht
    exact ht
  | cons name rest ih =>
    intro done trail ht
    rw [follow] at ht ⊢
    cases he : files.entry? done with
    | none => simp [he] at ht
    | some e =>
      cases e with
      | file content => simp [he] at ht
      | folder =>
        simp only [he] at ht
        simp only [h done he]
        split_ifs at ht ⊢ with hdot hup
        · exact ih ht
        · exact ih ht
        · exact ih ht

lemma locate_congr {files more : Files} (hroot : more.root = files.root)
    (h : ∀ trail, files.entry? trail = some .folder → more.entry? trail = some .folder)
    {path : String} {trail : Trail}
    (ht : files.locate path = .ok trail) : more.locate path = .ok trail := by
  rw [locate] at ht ⊢
  rw [names?_congr hroot]
  cases hn : files.names? path with
  | none => simp [hn] at ht
  | some names =>
    rw [hn] at ht
    exact follow_congr h names ht

lemma follow_ne_device {files : Files} {names : List String} {done : Trail} {cause : DeviceError} :
    files.follow done names ≠ .error (.device cause) := by
  induction names generalizing done with
  | nil =>
    rintro ⟨⟩
  | cons name rest ih =>
    rw [follow]
    cases files.entry? done with
    | none => simp
    | some e =>
      cases e with
      | file content => simp
      | folder =>
        simp only
        split_ifs
        · exact ih
        · exact ih
        · exact ih

lemma locate_ne_device {files : Files} {path : String} {cause : DeviceError} :
    files.locate path ≠ .error (.device cause) := by
  rw [locate]
  cases files.names? path with
  | none => simp
  | some names => exact follow_ne_device

lemma find_eq_ok_iff {files : Files} {path : String} {e : Entry} :
    files.find path = .ok e ↔
      ∃ trail, files.locate path = .ok trail ∧ files.entry? trail = some e := by
  rw [find]
  cases ht : files.locate path with
  | error err => simp
  | ok trail =>
    cases he : files.entry? trail with
    | none => simp [he]
    | some e' => simp [he]

lemma read_eq_ok_iff {files : Files} {path : String} {content : Bytes} :
    files.read path = .ok content ↔ files.find path = .ok (.file content) := by
  rw [read]
  cases hf : files.find path with
  | error err => simp
  | ok e => cases e <;> simp

lemma Extends.find {files more : Files} (h : Extends files more) {path : String} {e : Entry}
    (hf : files.find path = .ok e) : more.find path = .ok e := by
  obtain ⟨trail, ht, he⟩ := find_eq_ok_iff.mp hf
  exact find_eq_ok_iff.mpr ⟨trail, locate_congr h.root_eq (fun t => h.entry t _) ht,
    h.entry trail e he⟩

/-- What could be read can still be read. -/
lemma Extends.read {files more : Files} (h : Extends files more) {path : String} {content : Bytes}
    (hr : files.read path = .ok content) : more.read path = .ok content :=
  read_eq_ok_iff.mpr (h.find (read_eq_ok_iff.mp hr))

lemma has_of_read {files : Files} {path : String} {content : Bytes}
    (h : files.read path = .ok content) : files.has path = true := by
  simp [has, read_eq_ok_iff.mp h, Except.toOption]

/-- A text that is read is what the file holds, decoded. -/
lemma encode_of_readText {files : Files} {path : String} {content : Bytes} {text : String}
    (hread : files.read path = .ok content) (htext : files.readText path = .ok text) :
    Utf8.encode text = content := by
  rw [readText, hread, ok_bind] at htext
  cases hs : Utf8.decode? content with
  | none => simp [hs] at htext
  | some decoded =>
    simp only [hs, pure_eq_ok, Except.ok.injEq] at htext
    subst htext
    exact Utf8.encode_of_decode? hs

/-! ### Making folders -/

lemma makeFolder_eq_ok_iff {files made : Files} {path : String} :
    files.makeFolder path = .ok made ↔
      ∃ trail, files.locate (withoutEndSlashes path) = .ok trail ∧ files.entry? trail = none ∧
      files.allows trail = true ∧ made = files.put trail .folder := by
  rw [makeFolder]
  cases ht : files.locate (withoutEndSlashes path) with
  | error e => simp
  | ok trail =>
    cases he : files.entry? trail with
    | some e => simp [he]
    | none =>
      cases ha : files.allows trail with
      | false => simp [he, ha]
      | true =>
        simp only [ok_bind, he, ha, if_true, pure_eq_ok, Except.ok.injEq, true_and, exists_eq_left']
        exact eq_comm

lemma extends_makeFolder {files made : Files} {path : String}
    (h : files.makeFolder path = .ok made) : Extends files made := by
  obtain ⟨trail, -, he, -, rfl⟩ := makeFolder_eq_ok_iff.mp h
  exact extends_put_folder files he

/-- Folders that were made before a failure stay, and nothing else has changed. -/
lemma extends_makeFoldersFrom (path : String) (fuel : Nat) (files : Files) :
    Extends files (makeFoldersFrom path fuel files).2 := by
  induction fuel generalizing path files with
  | zero => exact .refl files
  | succ fuel ih =>
    rw [makeFoldersFrom]
    split_ifs with hp
    · exact .refl files
    · cases hm : files.makeFolder path with
      | ok made => exact extends_makeFolder hm
      | error e =>
        cases e with
        | notFound =>
          cases ha : parent? path with
          | none => exact .refl files
          | some above =>
            have hup := ih above files
            simp only
            cases hr : makeFoldersFrom above fuel files with
            | mk result files₁ =>
              rw [hr] at hup
              cases result with
              | error e => exact hup
              | ok done =>
                simp only
                cases hm₁ : files₁.makeFolder path with
                | ok made => exact hup.trans (extends_makeFolder hm₁)
                | error e => exact hup
        | _ => exact .refl files

/-- No device is asked for a folder. -/
lemma makeFolder_ne_device {files : Files} {path : String} {cause : DeviceError} :
    files.makeFolder path ≠ .error (.device cause) := by
  intro h
  rw [makeFolder, bind_eq_error_iff] at h
  obtain h | ⟨trail, -, h⟩ := h
  · exact locate_ne_device h
  · split at h
    · simp at h
    · split_ifs at h <;> simp at h

lemma makeFoldersFrom_ne_device (path : String) (fuel : Nat) (files : Files) {cause : DeviceError} :
    (makeFoldersFrom path fuel files).1 ≠ .error (.device cause) := by
  induction fuel generalizing path files with
  | zero =>
    rw [makeFoldersFrom]
    split_ifs <;> simp
  | succ fuel ih =>
    have hsettle : ∀ {files : Files} {e : FileError}, files.makeFolder path = .error e →
        (if files.isFolder path then .ok () else .error e : Except FileError Unit) ≠
          .error (.device cause) := by
      intro files e he hdevice
      split_ifs at hdevice
      cases hdevice
      exact makeFolder_ne_device he
    rw [makeFoldersFrom]
    split_ifs with hp
    · simp
    · cases hm : files.makeFolder path with
      | ok made => simp
      | error e =>
        cases e with
        | notFound =>
          cases ha : parent? path with
          | none => simp
          | some above =>
            have hup := ih above files
            simp only
            cases hr : makeFoldersFrom above fuel files with
            | mk result files₁ =>
              rw [hr] at hup
              cases result with
              | error e => exact hup
              | ok done =>
                simp only
                cases hm₁ : files₁.makeFolder path with
                | ok made => simp
                | error e => exact hsettle hm₁
        | _ => exact hsettle hm

lemma extends_makeFolders (files : Files) (path : String) :
    Extends files (files.makeFolders path).2 :=
  extends_makeFoldersFrom path path.length files

/-! ### Opening a file -/

section Opened

variable {files : Files} {path : String} {trail : Trail}

/-- A file is opened just if its path has no slash at its end and is that of no folder, and the
place is not protected. -/
lemma opened_eq_ok_iff :
    files.opened path = .ok trail ↔
      withoutEndSlashes path = path ∧ files.locate path = .ok trail ∧
      files.entry? trail ≠ some .folder ∧
        files.allows trail = true := by
  rw [opened]
  constructor
  · intro h
    cases ht : files.locate (withoutEndSlashes path) with
    | error e => simp [ht] at h
    | ok found =>
      simp only [ht, ok_bind] at h
      have hfolder : files.entry? found ≠ some .folder := by
        intro he
        simp [he] at h
      split at h
      · exact absurd ‹_› hfolder
      · split_ifs at h with hs ha
        cases h
        have hpath : withoutEndSlashes path = path := by simpa [endsInSlash] using hs
        rw [hpath] at ht
        exact ⟨hpath, ht, hfolder, ha⟩
  · rintro ⟨hpath, ht, hfolder, ha⟩
    have hs : endsInSlash path = false := by simp [endsInSlash, hpath]
    rw [hpath, ht, hs]
    cases he : files.entry? trail with
    | none => simp [he, ha]
    | some e =>
      cases e with
      | folder => exact absurd he hfolder
      | file old => simp [he, ha]

/-- No device is asked before a file is open. -/
lemma opened_ne_device {cause : DeviceError} : files.opened path ≠ .error (.device cause) := by
  intro h
  rw [opened, bind_eq_error_iff] at h
  obtain h | ⟨found, -, h⟩ := h
  · exact locate_ne_device h
  · split at h
    · simp at h
    · split_ifs at h <;> simp at h

lemma ne_nil_of_not_folder (h : files.entry? trail ≠ some .folder) : trail ≠ [] := by
  rintro rfl
  exact h rfl

/-- A file takes no folder's place. -/
lemma folder_put_file {content : Bytes} (h : files.entry? trail ≠ some .folder) {other : Trail}
    (ho : files.entry? other = some .folder) :
    Files.entry? (files.put trail (.file content)) other = some .folder := by
  have hother : other ≠ trail := by
    rintro rfl
    exact h ho
  rw [entry?_put_of_ne _ hother]
  exact ho

/-- What could be put once can be put again. -/
lemma allows_put (h : files.allows trail = true) (hne : trail ≠ []) (entry : Entry) :
    (files.put trail entry).allows trail = true := by
  rw [allows, entry?_put_self _ hne]
  rw [allows] at h
  cases he : files.entry? trail with
  | some e => simpa [put, he] using h
  | none => simp [put, he]

end Opened

/-! ### Writing -/

@[simp] lemma entry?_settled (files : Files) (trail : Trail) :
    files.settled.entry? trail = files.entry? trail := by
  cases trail <;> rfl

@[simp] lemma root_settled (files : Files) : files.settled.root = files.root := rfl

@[simp] lemma allows_settled (files : Files) (trail : Trail) :
    files.settled.allows trail = files.allows trail := by
  rw [allows, allows, entry?_settled]
  rfl

/-- The file of a path has been filled with a content, and all other files hold what they did. -/
structure Fills (files after : Files) (path : String) (content : Bytes) : Prop where
  root_eq : after.root = files.root
  folder : ∀ trail, files.entry? trail = some .folder → after.entry? trail = some .folder
  read : after.read path = .ok content
  others : ∃ trail, after.locate path = .ok trail ∧
    ∀ other, other ≠ trail → after.content? other = files.content? other

section Put

variable {files : Files} {path : String} {trail : Trail}

lemma folder_put_opened (h : files.opened path = .ok trail) (content : Bytes) {other : Trail}
    (ho : files.entry? other = some .folder) :
    Files.entry? (files.settled.put trail (.file content)) other = some .folder := by
  obtain ⟨-, -, hfile, -⟩ := opened_eq_ok_iff.mp h
  apply folder_put_file
  · rwa [entry?_settled]
  · rwa [entry?_settled]

lemma locate_put_opened (h : files.opened path = .ok trail) (content : Bytes) :
    Files.locate (files.settled.put trail (.file content)) path = .ok trail := by
  obtain ⟨-, ht, -, -⟩ := opened_eq_ok_iff.mp h
  have hroot : Files.root (files.settled.put trail (.file content)) = files.root := rfl
  exact locate_congr hroot (fun other => folder_put_opened h content) ht

lemma fills_put (h : files.opened path = .ok trail) (content : Bytes) :
    Fills files (files.settled.put trail (.file content)) path content := by
  obtain ⟨-, -, hfile, -⟩ := opened_eq_ok_iff.mp h
  have hlocate := locate_put_opened h content
  refine ⟨rfl, fun other => folder_put_opened h content, ?_, trail, hlocate, ?_⟩
  · rw [read_eq_ok_iff, find_eq_ok_iff]
    exact ⟨trail, hlocate, entry?_put_self _ (ne_nil_of_not_folder hfile) _⟩
  · intro other ho
    rw [content?, content?, entry?_put_of_ne _ ho, entry?_settled]

end Put

/-- Folders that were made first do not matter. -/
lemma Fills.of_extends {files more after : Files} {path : String} {content : Bytes}
    (h : Extends files more) (hfills : Fills more after path content) :
    Fills files after path content := by
  obtain ⟨trail, ht, hothers⟩ := hfills.others
  refine ⟨hfills.root_eq.trans h.root_eq, ?_, hfills.read, trail, ht, ?_⟩
  · intro other ho
    exact hfills.folder other (h.entry other _ ho)
  · intro other ho
    exact (hothers other ho).trans (h.content other)

/-- What a write comes to: its result and the files after it. -/
inductive WriteOutcome (files : Files) (path : String) (content : Bytes) :
    Except FileError Unit → Files → Prop where
  | refused (e : FileError) (h : files.opened path = .error e) :
      WriteOutcome files path content (.error e) files
  | brokenOff (fault : WriteFault) (after : Files) (h : files.nextFault = some fault)
      (hfills : Fills files after path (fault.left content)) :
      WriteOutcome files path content (.error (.device fault.cause)) after
  | done (after : Files) (h : files.nextFault = none) (hfills : Fills files after path content) :
      WriteOutcome files path content (.ok ()) after

theorem write_outcome (files : Files) (path : String) (content : Bytes) :
    WriteOutcome files path content (files.write path content).1 (files.write path content).2 := by
  rw [write]
  cases hopened : files.opened path with
  | error e => exact .refused e hopened
  | ok trail =>
    cases hfault : files.nextFault with
    | some fault => exact .brokenOff fault _ hfault (fills_put hopened _)
    | none => exact .done _ hfault (fills_put hopened content)

/-- A write to a file that is open breaks off if it has a fault. -/
lemma write_of_fault {files : Files} {path : String} {trail : Trail} {fault : WriteFault}
    (hopened : files.opened path = .ok trail) (hfault : files.nextFault = some fault)
    (content : Bytes) :
    files.write path content =
      (.error (.device fault.cause), files.settled.put trail (.file (fault.left content))) := by
  simp only [write, hopened, hfault]

/-- No write breaks off. -/
def Faultless (files : Files) : Prop := ∀ fault ∈ files.faults, fault = none

section Faultless

variable {files : Files} {path : String} {content : Bytes}

lemma Faultless.nextFault (h : files.Faultless) : files.nextFault = none := by
  rw [Files.nextFault]
  cases hfaults : files.faults with
  | nil => rfl
  | cons fault rest => exact h fault (by simp [hfaults])

lemma Faultless.settled (h : files.Faultless) : files.settled.Faultless := by
  intro fault hmem
  exact h fault (List.mem_of_mem_tail hmem)

lemma Faultless.write (h : files.Faultless) (path : String) (content : Bytes) :
    (files.write path content).2.Faultless := by
  rw [Files.write]
  cases files.opened path with
  | error e => exact h
  | ok trail =>
    cases files.nextFault with
    | some fault => exact h.settled
    | none => exact h.settled

/-- A write is done just if the file is opened and the next write has no fault. -/
lemma write_eq_ok_iff {after : Files} :
    files.write path content = (.ok (), after) ↔
      ∃ trail, files.opened path = .ok trail ∧ files.nextFault = none ∧
        after = files.settled.put trail (.file content) := by
  rw [write]
  cases files.opened path with
  | error e => simp
  | ok trail =>
    cases files.nextFault with
    | some fault => simp
    | none => simp [eq_comm]

/-- Whether a write is done does not depend on what is written. -/
lemma write_of_write (h : (files.write path content).1 = .ok ()) (other : Bytes) :
    (files.write path other).1 = .ok () := by
  obtain ⟨trail, hopened, hfault, -⟩ := write_eq_ok_iff.mp (Prod.ext h rfl)
  rw [write_eq_ok_iff.mpr ⟨trail, hopened, hfault, rfl⟩]

/-- A file that was written can be written again. -/
lemma write_again (hfaultless : files.Faultless) (h : (files.write path content).1 = .ok ())
    (other : Bytes) : ((files.write path content).2.write path other).1 = .ok () := by
  obtain ⟨trail, hopened, -, hafter⟩ := write_eq_ok_iff.mp (Prod.ext h rfl)
  obtain ⟨hpath, -, hfolder, ha⟩ := opened_eq_ok_iff.mp hopened
  have hne := ne_nil_of_not_folder hfolder
  have hagain : Files.opened (files.settled.put trail (.file content)) path = .ok trail := by
    refine opened_eq_ok_iff.mpr ⟨hpath, ?_, ?_, ?_⟩
    · exact locate_put_opened hopened content
    · rw [entry?_put_self _ hne]
      simp
    · exact allows_put (by rwa [allows_settled]) hne _
  have hsettled : Files.nextFault (files.settled.put trail (.file content)) = none :=
    hfaultless.settled.nextFault
  simp only [hafter]
  rw [write_eq_ok_iff.mpr ⟨trail, hagain, hsettled, rfl⟩]

end Faultless

/-! ### Making the same folders again -/

section Stands

variable {files more : Files} {path above : String}

lemma isFolder_iff : files.isFolder path = true ↔ files.find path = .ok .folder := by
  rw [isFolder]
  cases files.find path with
  | error e => simp
  | ok e => cases e <;> simp

/-- The path names a folder, with the slashes at its end or without them. -/
structure Stands (files : Files) (path : String) : Prop where
  here : files.find path = .ok .folder
  bare : files.find (withoutEndSlashes path) = .ok .folder

lemma Stands.of_folders (h : Stands files path) (hroot : more.root = files.root)
    (hfolders : ∀ trail, files.entry? trail = some .folder → more.entry? trail = some .folder) :
    Stands more path := by
  have hfind : ∀ {path}, files.find path = .ok .folder → more.find path = .ok .folder := by
    intro path h
    obtain ⟨trail, ht, he⟩ := find_eq_ok_iff.mp h
    exact find_eq_ok_iff.mpr ⟨trail, locate_congr hroot hfolders ht, hfolders trail he⟩
  exact ⟨hfind h.here, hfind h.bare⟩

lemma makeFolder_of_stands (h : Stands files path) : files.makeFolder path = .error .present := by
  obtain ⟨trail, ht, he⟩ := find_eq_ok_iff.mp h.bare
  rw [makeFolder, ht]
  simp only [ok_bind, he]
  rfl

/-- A folder that is there is left as it is. -/
lemma makeFoldersFrom_of_stands (h : Stands files path) (fuel : Nat) :
    makeFoldersFrom path fuel files = (.ok (), files) := by
  have hfolder := isFolder_iff.mpr h.here
  cases fuel with
  | zero => rw [makeFoldersFrom, if_pos hfolder]
  | succ fuel =>
    rw [makeFoldersFrom]
    split_ifs
    · rfl
    · simp [makeFolder_of_stands h, hfolder]

/-- The path of the folder that holds something ends in a slash only if it is the topmost folder. -/
lemma withoutEndSlashes_of_parent? (h : parent? path = some above) :
    above = "/" ∨ withoutEndSlashes above = above := by
  simp only [parent?] at h
  split_ifs at h
  · exact .inl (Option.some.inj h).symm
  · cases h
    refine .inr ?_
    rw [withoutEndSlashes, String.toList_ofList, List.reverse_reverse, List.dropWhile_idempotent]

/-- The empty path can only lead to the root. -/
lemma locate_empty (files : Files) :
    files.locate "" = .ok [] ∨ files.locate "" = .error .notFound := by
  have hnames : ∀ names, files.names? "" = some names → names = [] ∨ names = [""] := by
    intro names h
    rw [names?] at h
    split_ifs at h
    · exact .inl (Option.some.inj h).symm
    · rw [String.toList_empty, List.drop_nil, List.splitOn_nil] at h
      exact .inr (Option.some.inj h).symm
  rw [locate]
  cases h : files.names? "" with
  | none => exact .inr rfl
  | some names =>
    refine .inl ?_
    rcases hnames names h with rfl | rfl <;> rfl

lemma stands_of_makeFolder {made : Files} (hpath : path = "/" ∨ withoutEndSlashes path = path)
    (h : files.makeFolder path = .ok made) : Stands made path := by
  obtain ⟨trail, ht, he, -, rfl⟩ := makeFolder_eq_ok_iff.mp h
  have hne : trail ≠ [] := by
    rintro rfl
    cases he
  rcases hpath with rfl | hpath
  · -- The topmost folder is never made.
    rcases locate_empty files with hroot | hnone
    · cases ht.symm.trans hroot
      exact absurd rfl hne
    · cases ht.symm.trans hnone
  · have hfind : Files.find (files.put trail .folder) (withoutEndSlashes path) = .ok .folder := by
      refine find_eq_ok_iff.mpr ⟨trail, locate_congr (root_put ..) (fun other ho => ?_) ht,
        entry?_put_self _ hne _⟩
      exact (extends_put_folder files he).entry other _ ho
    exact ⟨by rwa [hpath] at hfind, hfind⟩

/-- A folder stands once it was made, with those above it. -/
lemma stands_of_makeFolders {made : Files} (hpath : path = "/" ∨ withoutEndSlashes path = path)
    (hsome : path ≠ "") (h : files.makeFolders path = (.ok (), made)) : Stands made path := by
  have hsettle : ∀ {files : Files} {e : FileError}, files.makeFolder path = .error e →
      e ≠ .notFound ∨ path ≠ "/" →
      (if files.isFolder path then .ok () else .error e, files) = (Except.ok (), made) →
        Stands made path := by
    intro files e he hcause h
    obtain ⟨hfolder, rfl⟩ := Prod.mk.inj h
    split_ifs at hfolder with hhere
    have hhere := isFolder_iff.mp hhere
    refine ⟨hhere, ?_⟩
    rcases hpath with rfl | hpath
    · rcases locate_empty files with hroot | hnone
      · exact find_eq_ok_iff.mpr ⟨[], hroot, rfl⟩
      · have hnot : files.makeFolder "/" = .error .notFound := by
          rw [makeFolder, show withoutEndSlashes "/" = "" from rfl, hnone]
          rfl
        cases he.symm.trans hnot
        exact (hcause.elim (absurd rfl) (absurd rfl))
    · rwa [hpath]
  obtain ⟨fuel, hfuel⟩ : ∃ fuel, path.length = fuel + 1 :=
    Nat.exists_eq_succ_of_ne_zero fun hzero => hsome (String.length_eq_zero_iff.mp hzero)
  rw [makeFolders, hfuel, makeFoldersFrom, if_neg (by simpa using hsome)] at h
  cases hm : files.makeFolder path with
  | ok first =>
    rw [hm] at h
    cases h
    exact stands_of_makeFolder hpath hm
  | error e =>
    rw [hm] at h
    cases e with
    | notFound =>
      simp only at h
      cases ha : parent? path with
      | none => simp [ha] at h
      | some above =>
        have hnot : path ≠ "/" := by
          rintro rfl
          cases ha
        simp only [ha] at h
        cases hr : makeFoldersFrom above fuel files with
        | mk result files₁ =>
          rw [hr] at h
          cases result with
          | error e => simp at h
          | ok done =>
            simp only at h
            cases hm₁ : files₁.makeFolder path with
            | ok second =>
              rw [hm₁] at h
              cases h
              exact stands_of_makeFolder hpath hm₁
            | error e =>
              rw [hm₁] at h
              exact hsettle hm₁ (.inr hnot) h
    | _ => exact hsettle hm (.inl (by simp)) h

end Stands

/-! ### A file in the root -/

lemma locate_in_root {files : Files} (h : files.root = "/d") : files.locate "/d/p" = .ok ["p"] := by
  have hnames : (empty "/d").names? "/d/p" = some ["p"] := by decide +kernel
  rw [locate, names?_congr (show files.root = (empty "/d").root from h), hnames]
  rfl

lemma read_in_root {files : Files} (h : files.root = "/d") {content : Bytes}
    (hentry : files.entry? ["p"] = some (.file content)) : files.read "/d/p" = .ok content := by
  rw [read_eq_ok_iff, find_eq_ok_iff]
  exact ⟨["p"], locate_in_root h, hentry⟩

/-- A file with an object that has no member, on a device that takes no more. -/
def fullDevice : Files :=
  { root := "/d", entries := [(["p"], .file [0x7B, 0x7D])], faults := [some ⟨0, .noSpace⟩] }

lemma read_fullDevice : fullDevice.read "/d/p" = .ok [0x7B, 0x7D] := read_in_root rfl rfl

lemma opened_fullDevice : fullDevice.opened "/d/p" = .ok ["p"] :=
  opened_eq_ok_iff.mpr ⟨rfl, locate_in_root rfl, by rintro ⟨⟩, rfl⟩

end Files

end ClusterCost
