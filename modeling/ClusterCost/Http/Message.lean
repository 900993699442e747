import ClusterCost.Json.Value
import ClusterCost.Url.Percent

/-!
# Requests and responses

A request has a method, a target and a body. The target is a path and, after a question mark, a
query. A response has a status, the type of its content and a body.
-/

namespace ClusterCost.Http

structure Request where
  method : String
  target : String
  body : Bytes

namespace Request

/-- The target without scheme and host, which a target may have in front of its path. -/
def ownPart (r : Request) : List Char :=
  let cs := r.target.toList
  if cs.head? == some '/' then cs
  else
    match r.target.splitOn "://" with
    | _ :: rest@(_ :: _) =>
      match (String.intercalate "://" rest).toList.dropWhile (fun c => !(c == '/' || c == '?')) with
      | '/' :: path => '/' :: path
      | other => '/' :: other
    | _ => cs

def path (r : Request) : String :=
  String.ofList (r.ownPart.takeWhile fun c => !(c == '?' || c == '#'))

/-- The query; empty if there is none. -/
def query (r : Request) : String :=
  match r.ownPart.dropWhile fun c => !(c == '?' || c == '#') with
  | '?' :: rest => String.ofList (rest.takeWhile (· != '#'))
  | _ => ""

end Request

structure Response where
  status : Nat
  contentType : Option String
  body : Bytes
  deriving DecidableEq, Repr

namespace Response

def bare (status : Nat) : Response := ⟨status, none, []⟩

def json (status : Nat) (value : Json.Value) : Response :=
  ⟨status, some "application/json", value.compact⟩

def text (status : Nat) (s : String) : Response :=
  ⟨status, some "text/plain; charset=utf-8", Utf8.encode s⟩

/-- A response that gives the reason of an error. -/
def error (status : Nat) (reason : String) : Response :=
  json status (.object [("error", .text reason)])

def withoutBody (r : Response) : Response := { r with body := [] }

end Response

end ClusterCost.Http
