import ClusterCost.Event
import ClusterCost.Rates.Update

/-!
# The store of the rate card

The store owns the current card. A store with a file writes each new card there before the card
becomes current; if that fails, the card stays as it was. The file does not, if it had been opened.
-/

namespace ClusterCost

/-- The current card, and the path of the file that holds it. -/
structure Store where
  path : Option String
  card : RateCard

namespace Store

def inMemory (card : RateCard) : Store := ⟨none, card⟩

/-- Make the folder of a file, and those above it that are missing. -/
def makeFolderOf (path : String) (files : Files) : Except ConfigError Unit × Files :=
  match Files.parent? path with
  | none => (.ok (), files)
  | some above =>
    if above == "" then (.ok (), files)
    else
      let (made, files) := files.makeFolders above
      (made.mapError (.write above), files)

/-- Write a card to a file, making the folders above it. The files are those after it,
also if it fails. -/
def persist (path : String) (card : RateCard) (files : Files) : Except ConfigError Unit × Files :=
  match makeFolderOf path files with
  | (.error e, files) => (.error e, files)
  | (.ok (), files) =>
    let (written, files) := files.write path card.toJson.pretty
    (written.mapError (.write path), files)

/-- A store that was loaded, and what to report. -/
structure Loaded where
  store : Store
  event : Event

def readCard (path : String) (files : Files) : Except ConfigError RateCard := do
  let content ← (files.readText path).mapError (.read path)
  let bytes := Utf8.encode content
  (Json.readText RateCard.reader bytes).mapError fun failure =>
    .parse path (.ofFailure bytes failure)

/-- Load a pricing file; if there is none, write the default card there. -/
def load (path : String) (files : Files) : Except ConfigError Loaded × Files :=
  if files.has path then
    ((readCard path files).map fun card => ⟨⟨some path, card⟩, .loadedCard path⟩, files)
  else
    let (written, files) := persist path .default files
    (written.map fun () => ⟨⟨some path, .default⟩, .wroteDefaultCard path⟩, files)

/-- Write a card to the file of the store, if it has one. -/
def keep (s : Store) (card : RateCard) (files : Files) : Except ConfigError Unit × Files :=
  match s.path with
  | none => (.ok (), files)
  | some path => persist path card files

/-- Change the card: apply an edit to a copy, write the copy to the file, then make it current. The
result is the new card. -/
def update (s : Store) (files : Files) (edit : RateCard → Except PricingError RateCard) :
    Except PricingError RateCard × Store × Files :=
  match edit s.card with
  | .error e => (.error e, s, files)
  | .ok card =>
    match s.keep card files with
    | (.error e, files) => (.error (.config e), s, files)
    | (.ok (), files) => (.ok card, { s with card }, files)

end Store

end ClusterCost
