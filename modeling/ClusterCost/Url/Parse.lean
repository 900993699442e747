import ClusterCost.Url.Basic
import ClusterCost.Url.Domain

/-!
# Reading URLs

`Url.parse` reads an absolute URL into its normal form. Schemes of web addresses and files
are lenient: any number of slashes or backslashes may stand before the host, and a
backslash counts as a slash.
-/

namespace ClusterCost.Url

/-! ### Schemes -/

/-- How a scheme's URLs are read. -/
inductive SchemeKind where
  /-- A web address, with the scheme's usual number of a server. -/
  | web (usual : Nat)
  | file
  | other
  deriving DecidableEq, Repr

namespace SchemeKind

def ofName (scheme : String) : SchemeKind :=
  if scheme == "http" || scheme == "ws" then .web 80
  else if scheme == "https" || scheme == "wss" then .web 443
  else if scheme == "ftp" then .web 21
  else if scheme == "file" then .file
  else .other

/-- Whether a backslash counts as a slash. -/
def isLenient (k : SchemeKind) : Bool := k != other

def isSlash (k : SchemeKind) (c : Char) : Bool := c == '/' || (k.isLenient && c == '\\')

def endsAuthority (k : SchemeKind) (c : Char) : Bool := k.isSlash c || c == '?' || c == '#'

end SchemeKind

def isLetter (c : Char) : Bool := ('a' ≤ c && c ≤ 'z') || ('A' ≤ c && c ≤ 'Z')

/-- Take the scheme and its colon off a text. -/
def splitScheme? (cs : List Char) : Option (String × List Char) :=
  let isSchemeChar (c : Char) : Bool :=
    isLetter c || ('0' ≤ c && c ≤ '9') || c == '+' || c == '-' || c == '.'
  match cs.dropWhile isSchemeChar with
  | ':' :: rest =>
    if cs.head?.any isLetter then
      some (String.ofList ((cs.takeWhile isSchemeChar).map Char.toLower), rest)
    else none
  | _ => none

/-! ### Authorities -/

/-- Cut a list at the last element that satisfies a test. -/
def cutLast? (p : Char → Bool) (cs : List Char) : Option (List Char × List Char) :=
  match cs.reverse.dropWhile (!p ·) with
  | [] => none
  | _ :: before => some (before.reverse, (cs.reverse.takeWhile (!p ·)).reverse)

/-- The text of a user's name and password, and the sign after them. -/
def writeUserInfo (cs : List Char) : String :=
  let encode (cs : List Char) : String := Percent.encode Percent.userInfo (String.ofList cs)
  let name := cs.takeWhile (· != ':')
  let password := (cs.dropWhile (· != ':')).drop 1
  if name.isEmpty && password.isEmpty then ""
  else encode name ++ (if password.isEmpty then "" else ":" ++ encode password) ++ "@"

/-- The characters of the host at the front of a text; a colon in brackets belongs to it. -/
def hostLength (k : SchemeKind) : (inBrackets : Bool) → List Char → Nat
  | _, [] => 0
  | inBrackets, c :: rest =>
    if k.endsAuthority c || (c == ':' && !inBrackets) then 0
    else hostLength k (if c == '[' then true else if c == ']' then false else inBrackets) rest + 1

def readBracketed (cs : List Char) : Except UrlError Host :=
  if cs.getLast? == some ']' then (Address6.read (String.ofList (cs.drop 1).dropLast)).map .address6
  else .error .invalidAddress6

/-- Read the host of a web address or a file. -/
def readDomain (cs : List Char) : Except UrlError Host :=
  if cs.head? == some '[' then readBracketed cs
  else do
    let name ← Domain.toAscii (String.ofList cs)
    if name == "" then throw .emptyHost
    else if Address4.endsInNumber name then (Address4.read name).map .address4
    else pure (.name name)

/-- Read the host of any other URL. -/
def readHost (cs : List Char) : Except UrlError Host :=
  if cs.head? == some '[' then readBracketed cs
  else if cs.any fun c => c.toNat == 0 || " #/:<>?@[\\]^|".toList.contains c then
    .error .invalidCharacter
  else .ok (.name (Percent.encode Percent.controls (String.ofList cs)))

/-- Read the number of a server, up to the end of the authority. -/
def readServerNumber (k : SchemeKind) (cs : List Char) : Except UrlError (Option Nat) :=
  match Address4.readDigits? 10 cs with
  | none => .error .invalidPort
  | some n =>
    if 65535 < n then .error .invalidPort
    else if cs.isEmpty || k == .web n then .ok none
    else .ok (some n)

/-- Read the authority at the front of a text, and what follows it. -/
def readAuthority (k : SchemeKind) (cs : List Char) : Except UrlError (Authority × List Char) := do
  let region := cs.takeWhile (!k.endsAuthority ·)
  let (user, rest) := match cutLast? (· == '@') region with
    | none => (none, cs)
    | some (user, _) => (some user, cs.drop (user.length + 1))
  if user == some [] && rest.head?.any k.endsAuthority then throw .emptyHost
  let userInfo := user.elim "" writeUserInfo
  let length := hostLength k false rest
  let host ←
    if k != .other then
      if length == 0 then throw .emptyHost else readDomain (rest.take length)
    else readHost (rest.take length)
  let isEmpty := host == .name ""
  match rest.drop length with
  | ':' :: rest =>
    if isEmpty then throw .emptyHost
    -- A backslash always ends the number.
    let digits := rest.takeWhile fun c => !(k.endsAuthority c || c == '\\')
    let number ← readServerNumber k digits
    pure (⟨userInfo, host, number⟩, rest.drop digits.length)
  | rest =>
    if isEmpty && userInfo != "" then throw .emptyHost
    pure (⟨userInfo, host, none⟩, rest)

/-! ### Paths -/

/-- Whether a segment stands for the same folder. -/
def isSingleDot (segment : String) : Bool := segment == "." || segment.toLower == "%2e"

/-- Whether a segment stands for the folder above. -/
def isDoubleDot (segment : String) : Bool :=
  segment == ".." || segment.toLower == ".%2e" || segment.toLower == "%2e." ||
    segment.toLower == "%2e%2e"

/-- A letter and a colon, which name a drive. -/
def isDrive (segment : String) : Bool :=
  match segment.toList with
  | [c, ':'] => isLetter c
  | _ => false

/-- The name of a drive, which may be written with a bar for the colon. -/
def drive? (segment : String) : Option String :=
  match segment.toList with
  | [c, mark] =>
    if isLetter c && (mark == ':' || mark == '|') then some (String.ofList [c, ':']) else none
  | _ => none

/-- Add a segment to a path, given in reverse. The last segment leaves an empty one
where it names a folder. -/
def addSegment (k : SchemeKind) (isLast : Bool) (path : List String) (segment : String) :
    List String :=
  let settle (path : List String) : List String := if isLast then "" :: path else path
  if isDoubleDot segment then
    settle (if k == .file && path.length == 1 && path.all isDrive then path else path.drop 1)
  else if isSingleDot segment then settle path
  else
    match if k == .file && path.isEmpty then drive? segment else none with
    | some drive => drive :: path
    | none => Percent.encode Percent.path segment :: path

def addSegments (k : SchemeKind) (path : List String) : List String → List String
  | [] => path
  | [last] => addSegment k true path last
  | segment :: rest => addSegments k (addSegment k false path segment) rest

def splitSegments (k : SchemeKind) (cs : List Char) : List String :=
  (cs.splitOnP k.isSlash).map String.ofList

/-- Read segments; the paths of files start with one slash however many are written. -/
def readSegments (k : SchemeKind) (cs : List Char) : UrlPath :=
  let cs := cs.takeWhile fun c => !(c == '?' || c == '#')
  let segments := (addSegments k [] (splitSegments k cs)).reverse
  if k == .file then
    let named := segments.dropWhile (· == "")
    .segments (if named.isEmpty then [""] else named)
  else .segments segments

def readPath (k : SchemeKind) (cs : List Char) : UrlPath :=
  match cs with
  | c :: rest => if k.isSlash c then readSegments k rest else if k.isLenient then readSegments k cs
    else if c == '?' || c == '#' then .segments [] else readSegments k cs
  | [] => if k.isLenient then .segments [""] else .segments []

/-! ### URLs -/

/-- The query and the fragment, which follow the path. -/
def readEnd (k : SchemeKind) (cs : List Char) : Option String × Option String :=
  let cs := cs.dropWhile fun c => !(c == '?' || c == '#')
  let query := match cs with
    | '?' :: rest =>
      some (Percent.encode (if k.isLenient then Percent.webQuery else Percent.query)
        (String.ofList (rest.takeWhile (· != '#'))))
    | _ => none
  let fragment := match cs.dropWhile (· != '#') with
    | _ :: rest => some (Percent.encode Percent.fragment (String.ofList rest))
    | [] => none
  (query, fragment)

/-- Put the parts of a URL together; the path starts at the front of `cs`. -/
def assemble (scheme : String) (k : SchemeKind) (authority : Option Authority) (path : UrlPath)
    (cs : List Char) : Url :=
  let (query, fragment) := readEnd k cs
  ⟨scheme, authority, path, query, fragment⟩

/-- Read a file's URL after its scheme. A host is given after two slashes; a drive is no host. -/
def readFile (cs : List Char) : Except UrlError Url := do
  let k := SchemeKind.file
  match cs with
  | a :: b :: rest =>
    if k.isSlash a && k.isSlash b then
      let host := rest.takeWhile (!k.endsAuthority ·)
      if host.isEmpty || (drive? (String.ofList host)).isSome then
        return assemble "file" k (some ⟨"", .name "", none⟩) (readPath k rest) rest
      let host' ← readDomain host
      let rest := rest.drop host.length
      let host' := if host' == .name "localhost" then .name "" else host'
      return assemble "file" k (some ⟨"", host', none⟩) (readPath k rest) rest
  | _ => pure ()
  pure (assemble "file" k (some ⟨"", .name "", none⟩) (readPath k cs) cs)

/-- The text without blanks and control characters at its ends and without line breaks and tabs. -/
def clean (s : String) : List Char :=
  let isEdge (c : Char) : Bool := c.toNat ≤ 0x20
  let cs := ((s.toList.dropWhile isEdge).reverse.dropWhile isEdge).reverse
  cs.filter fun c => !(c == '\t' || c == '\n' || c == '\r')

def parse (s : String) : Except UrlError Url := do
  let some (scheme, rest) := splitScheme? (clean s) | throw .noScheme
  let k := SchemeKind.ofName scheme
  match k with
  | .file => readFile rest
  | .web _ =>
    let (authority, rest) ← readAuthority k (rest.dropWhile k.isSlash)
    pure (assemble scheme k (some authority) (readPath k rest) rest)
  | .other =>
    match rest with
    | '/' :: '/' :: rest =>
      let (authority, rest) ← readAuthority k rest
      pure (assemble scheme k (some authority) (readPath k rest) rest)
    | '/' :: _ => pure (assemble scheme k none (readPath k rest) rest)
    | _ =>
      let text := rest.takeWhile fun c => !(c == '?' || c == '#')
      pure
        (assemble scheme k none (.flat (Percent.encode Percent.controls (String.ofList text))) rest)

end ClusterCost.Url
