import ClusterCost.Toml.Table

/-!
# Reading TOML

A text is a sequence of lines: entries that give a key its value, headings, comments and blank
lines. `Toml.read` gives the members of the table that the text stands for.
-/

namespace ClusterCost.Toml

/-! ### Keys -/

/-- Whether a character may stand in a bare name. -/
def isBare (c : Char) : Bool := c.isAlphanum || c == '_' || c == '-'

/-- Read a name: a bare one, or a text on one line. -/
def readName : List Char → Option (String × List Char)
  | '"' :: rest => readBasic [] 0 rest
  | '\'' :: rest => readLiteral rest
  | cs =>
    match cs.takeWhile isBare with
    | [] => none
    | name => some (String.ofList name, cs.dropWhile isBare)

/-- Names and values may be nested to less than this depth. -/
def depthLimit : Nat := 80

/-- Read the names of a key, with blanks around each; so many more may follow the first. -/
def readNames : (more : Nat) → List Char → Option (List String × List Char)
  | more, cs => do
    let (name, rest) ← readName (skipBlanks cs)
    match skipBlanks rest, more with
    | '.' :: rest, more + 1 => (readNames more rest).map fun (names, rest) => (name :: names, rest)
    | '.' :: _, 0 => none
    | rest, _ => some ([name], rest)

/-- Read a key: names with points between them. -/
def readKey (cs : List Char) : Option (Key × List Char) := do
  let (names, rest) ← readNames (depthLimit - 2) cs
  let name ← names.getLast?
  pure (⟨names.dropLast, name⟩, rest)

/-! ### Values -/

def readWord (word : List Char) (cs : List Char) : Option (List Char) :=
  if word.isPrefixOf cs then some (cs.drop word.length) else none

def readScalar : List Char → Option (Value × List Char)
  | cs@('"' :: _) | cs@('\'' :: _) => (readText cs).map fun (s, rest) => (.text s, rest)
  | cs@('t' :: _) => (readWord "true".toList cs).map fun rest => (.bool true, rest)
  | cs@('f' :: _) => (readWord "false".toList cs).map fun rest => (.bool false, rest)
  | cs =>
    match Moment.read cs with
    | some (m, rest) => some (.moment m, rest)
    | none =>
      (Number.read cs).map fun (n, rest) =>
        match n with
        | .integer n => (.integer n, rest)
        | .real x => (.real x, rest)

mutual

/-- Read a value. Lists and tables can be entered so many levels deep; `fuel` bounds the steps. -/
def readValue : (fuel : Nat) → (levels : Nat) → List Char → Option (Value × List Char)
  | 0, _, _ => none
  | fuel + 1, levels, '[' :: rest =>
    if levels = 0 then none else readItems fuel (levels - 1) [] rest
  | fuel + 1, levels, '{' :: rest =>
    if levels = 0 then none else readMembers fuel (levels - 1) [] rest
  | _, _, cs => readScalar cs

/-- Read the items of a list. `seen` holds those so far, last first; a comma may follow the last. -/
def readItems :
    (fuel : Nat) → (levels : Nat) → (seen : List Value) → List Char → Option (Value × List Char)
  | 0, _, _, _ => none
  | fuel + 1, levels, seen, cs =>
    match skipGaps false cs with
    | ']' :: rest => some (.list seen.reverse, rest)
    | cs => do
      let (item, rest) ← readValue fuel levels cs
      match skipGaps false rest with
      | ',' :: rest => readItems fuel levels (item :: seen) rest
      | ']' :: rest => some (.list (item :: seen).reverse, rest)
      | _ => none

/-- Read the members of a table between braces. `seen` holds those so far, last first; no
comma may follow the last. -/
def readMembers :
    (fuel : Nat) → (levels : Nat) → (seen : List (Key × Value)) → List Char →
      Option (Value × List Char)
  | 0, _, _, _ => none
  | fuel + 1, levels, seen, cs =>
    let finish (entries : List (Key × Value)) (rest : List Char) : Option (Value × List Char) :=
      (Members.assignAll entries.reverse []).map fun members => (.table .braces members, rest)
    match skipBlanks cs, seen with
    | '}' :: rest, [] => finish [] rest
    | cs, _ => do
      let (key, rest) ← readKey cs
      let rest ← readWord ['='] rest
      let (value, rest) ← readValue fuel levels (skipBlanks rest)
      match skipBlanks rest with
      | ',' :: rest => readMembers fuel levels ((key, value) :: seen) rest
      | '}' :: rest => finish ((key, value) :: seen) rest
      | _ => none

end

/-! ### Lines -/

/-- What a line says. -/
inductive Line where
  | blank
  | entry (key : Key) (value : Value)
  | heading (h : Heading)

/-- Read a line from its first character that is no blank. -/
def readLine : List Char → Option (Line × List Char)
  | '[' :: '[' :: rest => do
    let (key, rest) ← readKey rest
    let rest ← endLine? (← readWord [']', ']'] rest)
    pure (.heading (.item key), rest)
  | '[' :: rest => do
    let (key, rest) ← readKey rest
    let rest ← endLine? (← readWord [']'] rest)
    pure (.heading (.table key), rest)
  | cs =>
    match endLine? cs with
    | some rest => some (.blank, rest)
    | none => do
      let (key, rest) ← readKey cs
      let rest := skipBlanks (← readWord ['='] rest)
      let (value, rest) ← readValue (2 * rest.length + 2) (depthLimit - 1) rest
      pure (.entry key value, ← endLine? rest)

/-- Read all lines; `fuel` is at least their number. -/
def readAllLines : (fuel : Nat) → List Char → Option (List Line)
  | 0, cs => if (skipBlanks cs).isEmpty then some [] else none
  | fuel + 1, cs =>
    match skipBlanks cs with
    | [] => some []
    | cs => do
      let (line, rest) ← readLine cs
      pure (line :: (← readAllLines fuel rest))

/-! ### The table of a text -/

/-- What has been read of a text: the members of its table, and the section that is still open.
Entries come last first. -/
structure Draft where
  members : Members
  heading : Option Heading
  entries : List (Key × Value)

namespace Draft

/-- Add the open section. Entries above the first heading belong to the table of the text. -/
def close (d : Draft) : Option Members :=
  match d.heading with
  | none => d.members.assignAll d.entries.reverse
  | some heading => (Section.mk heading d.entries.reverse).addTo d.members

def add (d : Draft) : Line → Option Draft
  | .blank => some d
  | .entry key value => some { d with entries := (key, value) :: d.entries }
  | .heading heading => d.close.map fun members => ⟨members, some heading, []⟩

end Draft

/-- The members of the table that a text stands for, if it stands for one. A byte order mark in
front is no part of the text. -/
def read (s : String) : Option Members := do
  let cs := match s.toList with
    | '\uFEFF' :: rest => rest
    | cs => cs
  let draft ← (← readAllLines (cs.length + 1) cs).foldlM Draft.add ⟨[], none, []⟩
  draft.close

end ClusterCost.Toml
