import ClusterCost.Url.Address

/-!
# URLs

A URL in its normal form: every part holds its text as it is written. `Url.write` puts the parts
together and `Url.child` goes from a URL whose path ends in a slash to one below it.
-/

namespace ClusterCost

inductive Host where
  /-- A name; empty where a URL that is no web address leaves its host out. -/
  | name (s : String)
  | address4 (n : Nat)
  | address6 (pieces : List Nat)
  deriving DecidableEq, Repr

def Host.write : Host → String
  | name s => s
  | address4 n => Address4.write n
  | address6 pieces => Address6.write pieces

/-- Where the resource is served. -/
structure Authority where
  /-- The user's name and password with the sign after them, or nothing. -/
  userInfo : String
  host : Host
  port : Option Nat
  deriving DecidableEq, Repr

def Authority.write (a : Authority) : String :=
  a.userInfo ++ a.host.write ++ (a.port.elim "" fun n => ":" ++ toString n)

inductive UrlPath where
  | flat (text : String)
  | segments (names : List String)
  deriving DecidableEq, Repr

namespace UrlPath

def write : UrlPath → String
  | flat text => text
  | segments names => String.join (names.map ("/" ++ ·))

def complete : UrlPath → UrlPath
  | flat text => flat (if text.endsWith "/" then text else text ++ "/")
  | segments names => segments (if names.getLast? = some "" then names else names ++ [""])

end UrlPath

structure Url where
  scheme : String
  authority : Option Authority
  path : UrlPath
  query : Option String
  fragment : Option String
  deriving DecidableEq, Repr

namespace Url

/-- The text of a URL. Two slashes may not follow the scheme of a URL without authority. -/
def write (u : Url) : String :=
  let path := u.path.write
  u.scheme ++ ":" ++
    (match u.authority with
      | some a => "//" ++ a.write
      | none => if path.startsWith "//" then "/." else "") ++
    path ++ (u.query.elim "" ("?" ++ ·)) ++ (u.fragment.elim "" ("#" ++ ·))

/-- The URL with a slash at the end of its path. -/
def complete (u : Url) : Url := { u with path := u.path.complete }

/-- The URL that names these segments in place of the last one, without query and fragment. -/
def child (u : Url) (names : List String) : Except UrlError Url :=
  match u.path with
  | .flat _ => .error .noSegments
  | .segments old =>
    .ok { u with path := .segments (old.dropLast ++ names), query := none, fragment := none }

/-- What is asked of the server of a web address: the path and the query. -/
def target (u : Url) : String := u.path.write ++ u.query.elim "" ("?" ++ ·)

end Url

end ClusterCost
