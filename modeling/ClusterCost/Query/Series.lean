import ClusterCost.Dictionary
import ClusterCost.Json.Record
import ClusterCost.Json.Value
import ClusterCost.Rates.Error
import ClusterCost.Url.Address

/-!
# Rows of a query's answer, and why there are none

A row is a time series: its labels and its samples. A query without rows has an error instead.
-/

namespace ClusterCost

/-! ### Errors -/

/-- Why an answer cannot be decoded. -/
inductive DecodeError where
  /-- The answer is not JSON of the expected form. -/
  | malformed (refusal : Json.Refusal)
  /-- The answer reports success but has no data. -/
  | noData
  /-- The value of a sample is no number. -/
  | badSample (value : String) (error : NumeralError)
  | noEndpoint
  /-- The backend's client gives this reason. -/
  | reported (text : String)

def DecodeError.message : DecodeError → String
  | malformed refusal => refusal.message
  | noData => "response is missing data"
  | badSample value error => "invalid sample value '" ++ value ++ "': " ++ error.message
  | noEndpoint => "endpoint is required"
  | reported text => text

/-- Why a query gives no rows. -/
inductive QueryError where
  /-- There is no answer. -/
  | transport
  /-- The answer has this status, which is none of success. -/
  | status (code : Nat) (body : String)
  | backend (errorType error : String)
  | decode (error : DecodeError)
  | endpoint (error : UrlError)
  | missingLabel (label : String)

def QueryError.message : QueryError → String
  | transport => "query request failed"
  | status code body => "query backend returned HTTP " ++ toString code ++ ": " ++ body
  | backend errorType error => "query failed (" ++ errorType ++ "): " ++ error
  | decode error => "failed to decode query response: " ++ error.message
  | endpoint error => "invalid query endpoint: " ++ error.message
  | missingLabel label => "label '" ++ label ++ "' is not present on query result"

/-! ### Rows -/

/-- A value at a time, which is given in seconds. -/
structure Sample where
  timestamp : Float
  value : Float

namespace Sample

def reader : Json.Reader Sample := Json.Record.read {
  name := "struct Sample"
  blank := ⟨0, 0⟩
  slots := [
    .of "timestamp" .required .real fun x s => { s with timestamp := x },
    .of "value" .required .real fun x s => { s with value := x }] }

def toJson (s : Sample) : Json.Value :=
  .object [("timestamp", .real s.timestamp), ("value", .real s.value)]

end Sample

/-- A row of a query's answer. -/
structure Series where
  labels : Dictionary String
  samples : List Sample

namespace Series

/-- A row with these labels and no samples; of a label that is given twice the last value counts. -/
def ofLabels (labels : List (String × String)) : Series := ⟨.ofList labels, []⟩

def label (s : Series) (name : String) : Except QueryError String :=
  (s.labels.get? name).elim (.error (.missingLabel name)) .ok

def reader : Json.Reader Series := Json.Record.read {
  name := "struct QueryResult"
  blank := ⟨.empty, []⟩
  slots := [
    .of "metric" .required (.members .text) fun labels s => { s with labels := .ofList labels },
    .of "values" .required (.list Sample.reader) fun samples s => { s with samples }] }

def toJson (s : Series) : Json.Value :=
  .object
    [("metric", .object (s.labels.map .text).entries),
     ("values", .list (s.samples.map Sample.toJson))]

end Series

end ClusterCost
