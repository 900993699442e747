import ClusterCost.Rates.Card

/-!
# Updates of a rate card

An update is a JSON object of names and texts. Of a name that is given several times the last
value counts, and the names are set in the order of their bytes, until one is refused; then
the card stays as it was.
-/

namespace ClusterCost

/-- Names in ascending order, each with a text, or with nothing where the object had a
value that is no text. -/
structure CardUpdate where
  entries : List (String × Option String)
  deriving DecidableEq

namespace CardUpdate

/-- Give a name a value in an ascending list of entries. -/
def insert (name : String) (value : Option String) :
    List (String × Option String) → List (String × Option String)
  | [] => [(name, value)]
  | (other, old) :: rest =>
    if name = other then (name, value) :: rest
    else if name < other then (name, value) :: (other, old) :: rest
    else (other, old) :: insert name value rest

/-- The update that an object's members make, in the order of the text. -/
def ofMembers (members : List (String × Option String)) : CardUpdate :=
  ⟨members.foldl (fun entries member => insert member.1 member.2 entries) []⟩

/-- Read a member's value: any JSON value, of which only a text is kept. -/
def valueReader : Json.Reader (Option String)
  | _, .text _ _ (.ok s) => .ok (some s)
  | r, o => (o.check r).map fun () => none

def reader : Json.Reader CardUpdate :=
  fun r o => (Json.Reader.members valueReader r o).map ofMembers

/-- The body of an update as it comes from its source: runs of bytes, one after another, and
what came after the last. -/
structure Body where
  chunks : List Bytes
  ending : Json.Ending := .finished

def Body.bytes (b : Body) : Bytes := b.chunks.flatten

def ofBody (body : Body) : Except Json.Refusal CardUpdate :=
  ((Json.Document.scan body.bytes body.ending).read .streamed reader).mapError
    (.ofFailure body.bytes)

def applyEntry (c : RateCard) (entry : String × Option String) : Except PricingError RateCard :=
  match entry.2 with
  | none => .error (.nonText entry.1)
  | some value => c.set entry.1 value

def apply (u : CardUpdate) (c : RateCard) : Except PricingError RateCard :=
  u.entries.foldlM applyEntry c

end CardUpdate

end ClusterCost
