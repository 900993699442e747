import ClusterCost.Query.Answer
import ClusterCost.Url.Parse
import ClusterCost.Url.Percent

/-!
# Endpoints of the backend

An endpoint is the URL below which the backend answers queries, and the kind of backend. A backend
that keeps samples in long-term storage has none of the newest ones yet, so its queries are
shifted back by an offset.
-/

namespace ClusterCost

/-- The modifier that shifts a query back; none for an empty offset. -/
def offsetModifier (offset : String) : String := if offset == "" then "" else " offset " ++ offset

inductive Backend where
  /-- A server that has every sample. -/
  | direct
  /-- A server of long-term storage, queried with an offset. -/
  | longTerm (offset : String)
  deriving DecidableEq, Repr

namespace Backend

def defaultOffset : String := "3h"

/-- A server of long-term storage with this offset, or the default one if it is empty. -/
def withOffset (offset : String) : Backend :=
  longTerm (if offset == "" then defaultOffset else offset)

/-- What is added to every query. -/
def modifier : Backend → String
  | direct => ""
  | longTerm offset => offsetModifier offset

end Backend

/-- Where and how queries are asked. -/
structure Endpoint where
  url : Url
  backend : Backend
  deriving DecidableEq, Repr

namespace Endpoint

/-- The segments of the path of queries, below the endpoint's. -/
def querySegments : List String := ["api", "v1", "query"]

/-- The endpoint of a text. Its path is completed by a slash. -/
def ofText (text : Option String) (backend : Backend) : Except QueryError Endpoint := do
  let some text := text | throw (.decode .noEndpoint)
  let url ← (Url.parse text).mapError .endpoint
  pure ⟨url.complete, backend⟩

def queryUrl (e : Endpoint) (query : String) : Except QueryError Url := do
  let url ← (e.url.child querySegments).mapError .endpoint
  pure { url with query := some ("query=" ++ Form.encode query) }

/-- What comes of a query that gets an answer, or none. -/
def ask (e : Endpoint) (query : String) (answer : Option Answer) :
    Except QueryError (List Series) := do
  let _ ← e.queryUrl query
  match answer with
  | none => throw .transport
  | some answer => answer.classify

end Endpoint

end ClusterCost
