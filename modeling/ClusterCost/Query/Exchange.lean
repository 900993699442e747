import ClusterCost.Query.Endpoint

/-!
# Queries over a connection

A query goes over a connection of its own: the bytes of a request in one direction, and in the other
those of an answer, which ends with the connection. The version of the protocol is the one that
keeps an answer in one piece.
-/

namespace ClusterCost

/-- The text by which the addresses of a host are looked up. -/
def Host.lookupText : Host → String
  | .address6 pieces => String.intercalate ":" (pieces.map Quoted.hexDigits)
  | host => host.write

/-- The port of a web address that goes without encryption, if it is one. -/
def Url.plainPort? (u : Url) : Option Nat :=
  if u.scheme == "http" then u.authority.map fun a => a.port.getD 80 else none

def Url.request (u : Url) : Bytes :=
  let host := u.authority.elim "" fun a => ({ a with userInfo := "" } : Authority).write
  Utf8.encode ("GET " ++ u.target ++ " HTTP/1.0\r\nHost: " ++ host ++ "\r\nAccept: */*\r\n\r\n")

namespace Answer

/-- The lines up to an empty one, and what follows that; `line` holds the line that has been
begun, last byte first. -/
def splitHead? : (line : Bytes) → Bytes → Option (List String × Bytes)
  | line, 0x0D :: 0x0A :: rest =>
    if line.isEmpty then some ([], rest)
    else
      (splitHead? [] rest).map fun (lines, body) => (Utf8.decodeLossy line.reverse :: lines, body)
  | line, b :: rest => splitHead? (b :: line) rest
  | _, [] => none

/-- The status in the first line of an answer. -/
def statusOf? (line : String) : Option Nat :=
  match line.splitOn " " with
  | version :: code :: _ =>
    if version.startsWith "HTTP/1." && code.length == 3 then code.toNat? else none
  | _ => none

/-- The length that a line of the head announces for the body. -/
def lengthOf? (line : String) : Option Nat :=
  match line.splitOn ":" with
  | [name, value] =>
    if name.toLower == "content-length" then value.trimAscii.toString.toNat? else none
  | _ => none

/-- The answer in the bytes of a connection, if it is whole. -/
def ofBytes? (bytes : Bytes) : Option Answer := do
  let (first :: lines, body) ← splitHead? [] bytes | none
  let status ← statusOf? first
  match lines.findSome? lengthOf? with
  | none => some ⟨status, body⟩
  | some length => if length ≤ body.length then some ⟨status, body.take length⟩ else none

end Answer

end ClusterCost
