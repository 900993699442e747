import ClusterCost.Decimal.Numeral
import ClusterCost.Query.Series

/-!
# Answers of the backend

The backend answers with an envelope: a status, and data of one of four kinds or an error.
`Answer.classify` says what an answer comes to: its rows, or the one error that fits it.
-/

namespace ClusterCost

/-! ### Texts with a byte order mark

Bytes from elsewhere may start with a mark that says how they are to be read. The mark itself is no
part of the text. Bytes without a mark are read as UTF-8. -/

namespace Marked

/-- Units of 16 bits, as their values; a last odd byte is a broken unit. -/
def units (join : UInt8 → UInt8 → Nat) : Bytes → List (Option Nat)
  | a :: b :: rest => some (join a b) :: units join rest
  | [_] => [none]
  | [] => []

/-- The characters of units; a unit that is half of a pair without its other half is replaced. -/
def charsOfUnits : List (Option Nat) → List Char
  | some high :: some low :: rest =>
    if 0xD800 ≤ high && high < 0xDC00 && 0xDC00 ≤ low && low < 0xE000 then
      Char.ofNat (0x10000 + (high - 0xD800) * 0x400 + (low - 0xDC00)) :: charsOfUnits rest
    else (if 0xD800 ≤ high && high < 0xE000 then '\uFFFD' else Char.ofNat high) ::
      charsOfUnits (some low :: rest)
  | some unit :: rest =>
    (if 0xD800 ≤ unit && unit < 0xE000 then '\uFFFD' else Char.ofNat unit) :: charsOfUnits rest
  | none :: rest => '\uFFFD' :: charsOfUnits rest
  | [] => []

def decode : Bytes → String
  | 0xEF :: 0xBB :: 0xBF :: rest => Utf8.decodeLossy rest
  | 0xFE :: 0xFF :: rest =>
    String.ofList (charsOfUnits (units (fun a b => a.toNat * 256 + b.toNat) rest))
  | 0xFF :: 0xFE :: rest =>
    String.ofList (charsOfUnits (units (fun a b => b.toNat * 256 + a.toNat) rest))
  | bytes => Utf8.decodeLossy bytes

end Marked

/-! ### Samples and rows -/

/-- A time and the text of a value. -/
abbrev RawSample := Float × String

def RawSample.read (raw : RawSample) : Except DecodeError Sample :=
  match Numeral.readFloat raw.2 with
  | .ok value => .ok ⟨raw.1, value⟩
  | .error error => .error (.badSample raw.2 error)

def RawSample.reader : Json.Reader RawSample := .pair .real .text

/-- Labels with what was measured under them. -/
structure Labelled (α : Type) where
  labels : Dictionary String
  content : α

/-- Read labels, which may be left out, and the content under a key. -/
def Labelled.reader {α : Type} (name key : String) (blank : α) (content : Json.Reader α) :
    Json.Reader (Labelled α) :=
  Json.Record.read {
    name
    blank := ⟨.empty, blank⟩
    slots := [
      .of "metric" .defaulted (.members .text) fun labels s => { s with labels := .ofList labels },
      .of key .required content fun a s => { s with content := a }] }

/-- The data of an answer. -/
inductive ResultSet where
  | vector (series : List (Labelled RawSample))
  /-- Each series over a range of time. -/
  | matrix (series : List (Labelled (List RawSample)))
  | scalar (sample : RawSample)
  | text (sample : RawSample)

inductive ResultKind where
  | vector
  | matrix
  | scalar
  | text
  deriving DecidableEq, Repr

namespace ResultKind

def reader : Json.Reader ResultKind :=
  .variant [("vector", vector), ("matrix", matrix), ("scalar", scalar), ("string", text)]

def dataReader : ResultKind → Json.Reader ResultSet
  | vector =>
    fun r o =>
      (Json.Reader.list (Labelled.reader "struct VectorSeries" "value" (0, "") RawSample.reader) r
        o).map
        .vector
  | matrix => fun r o =>
    (Json.Reader.list (Labelled.reader "struct MatrixSeries" "values" [] (.list RawSample.reader)) r
      o).map
      .matrix
  | scalar => fun r o => (RawSample.reader r o).map .scalar
  | text => fun r o => (RawSample.reader r o).map .text

end ResultKind

namespace ResultSet

open Json

/-! ### Reading data

The data names its kind in one member and has its content in another. Content that comes first is
set aside until the kind is known.
-/

/-- The members that matter. -/
def kindKey : String := "resultType"

/-- The member that holds the content. -/
def contentKey : String := "result"

/-- How messages name data. -/
def name : String := "adjacently tagged enum ApiData"

/-- What is known of the data after some of its members. -/
inductive Draft where
  | blank
  | ofKind (kind : ResultKind)
  | setAside (content : Outline)
  | whole (data : ResultSet)

/-- Read content that was set aside. A failure has the place that was reached when the
kind became known. -/
def readAside (kind : ResultKind) (r : Reading) (content : Outline) (place : Nat) :
    Except Failure ResultSet :=
  (kind.dataReader { r with held := true } content).mapError fun failure =>
    { failure with place := failure.place.orElse fun _ => r.place place }

/-- Take one more member; `place` is where the member and a bracket after it end. -/
def addMember (r : Reading) (draft : Draft) (member : Key × Outline) (place : Nat) :
    Except Failure Draft := do
  let (key, value) := member
  let name ← key.text
  if name == kindKey then
    match draft with
    | .blank => pure (.ofKind (← ResultKind.reader r value))
    | .setAside content =>
      let kind ← ResultKind.reader r value
      pure (.whole (← readAside kind r content place))
    | .ofKind _ | .whole _ => throw ⟨.duplicateField kindKey, r.place key.next⟩
  else if name == contentKey then
    match draft with
    | .blank =>
      value.check r
      pure (.setAside value)
    | .ofKind kind => pure (.whole (← kind.dataReader r value))
    | .setAside _ | .whole _ => throw ⟨.duplicateField contentKey, r.place key.next⟩
  else
    match if r.held then none else value.skipFailure with
    | some failure => throw failure
    | none => pure draft

def addMembers (r : Reading) (closing : Except Fault Nat) :
    Draft → List (Key × Outline) → Except Failure Draft
  | draft, [] => pure draft
  | draft, member :: rest => do
    let place := match rest, closing with
      | [], .ok stop => stop
      | _, _ => member.1.after
    addMembers r closing (← addMember r draft member place) rest

def reader : Reader ResultSet
  | r, .object start members closing => do
    let inner ← r.enter start
    let draft ← addMembers inner closing .blank members
    match closing, draft with
    | .error fault, _ => throw fault.kept
    | .ok _, .whole data => pure data
    | .ok stop, .ofKind _ => throw ⟨.missingField contentKey, r.place stop⟩
    | .ok stop, .blank | .ok stop, .setAside _ => throw ⟨.missingField kindKey, r.place stop⟩
  | r, .list start items closing => do
    let inner ← r.enter start
    match items with
    | [] => Reader.tooShort r 0 name closing
    | [kind] =>
      let _ ← ResultKind.reader inner kind
      Reader.tooShort r 1 name closing
    | kind :: content :: _ =>
      let kind ← ResultKind.reader inner kind
      let data ← kind.dataReader inner content
      Reader.overrun r 2 items closing
      pure data
  | r, o => .error (o.mistyped r name)

/-! ### Rows -/

/-- The rows of data; the first sample that is no number is an error. -/
def rows : ResultSet → Except DecodeError (List Series)
  | vector series => series.mapM fun s => return ⟨s.labels, [← s.content.read]⟩
  | matrix series => series.mapM fun s => return ⟨s.labels, ← s.content.mapM RawSample.read⟩
  | scalar sample | text sample => return [⟨.empty, [← sample.read]⟩]

end ResultSet

/-- What the backend answers. -/
structure Envelope where
  status : String
  data : Option ResultSet
  errorType : Option String
  error : Option String

namespace Envelope

def reader : Json.Reader Envelope := Json.Record.read {
  name := "struct ApiResponse"
  blank := ⟨"", none, none, none⟩
  slots := [
    .of "status" .required .text fun s e => { e with status := s },
    .of "data" .defaulted (.optional ResultSet.reader) fun data e => { e with data },
    .of "errorType" .defaulted (.optional .text) fun s e => { e with errorType := s },
    .of "error" .defaulted (.optional .text) fun s e => { e with error := s }] }

/-- The rows of an envelope that reports success. -/
def rows (e : Envelope) : Except QueryError (List Series) :=
  if e.status != "success" then .error (.backend (e.errorType.getD "") (e.error.getD ""))
  else
    match e.data with
    | none => .error (.decode .noData)
    | some data => data.rows.mapError .decode

def decode (body : String) : Except QueryError (List Series) :=
  let text := Utf8.encode body
  match Json.readText reader text with
  | .ok envelope => envelope.rows
  | .error failure => .error (.decode (.malformed (.ofFailure text failure)))

end Envelope

/-- An answer as it comes over the wire. -/
structure Answer where
  status : Nat
  body : Bytes

namespace Answer

def isSuccess (a : Answer) : Bool := 200 ≤ a.status && a.status < 300

/-- What an answer comes to. With any other status than one of success only an error that the
backend reports itself is more telling than the status. -/
def classify (a : Answer) : Except QueryError (List Series) :=
  let body := Marked.decode a.body
  if a.isSuccess then Envelope.decode body
  else
    match Envelope.decode body with
    | .error (.backend errorType error) => .error (.backend errorType error)
    | _ => .error (.status a.status body)

end Answer

end ClusterCost
