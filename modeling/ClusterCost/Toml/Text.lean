/-!
# The characters of TOML

Blanks, line ends and comments, and the four kinds of quoted texts: basic ones with escapes and
literal ones without, on one line or on several. A reader takes what it wants from the front of the
characters and gives the rest back.
-/

namespace ClusterCost.Toml

/-- Whether a character is a blank of a line. -/
def isBlank (c : Char) : Bool := c == ' ' || c == '\t'

/-- Whether a character may stand for itself: all but the control characters, of which
only the tab may. -/
def isPlain (c : Char) : Bool := c == '\t' || (0x20 ≤ c.toNat && c.toNat != 0x7F)

def skipBlanks (cs : List Char) : List Char := cs.dropWhile isBlank

def lineEnd? : List Char → Option (List Char)
  | '\n' :: rest => some rest
  | '\r' :: '\n' :: rest => some rest
  | _ => none

def skipComment : List Char → List Char
  | '#' :: rest => rest.dropWhile isPlain
  | cs => cs

/-- Pass over the end of a line: blanks, a comment, and then the line end or the end of the text. -/
def endLine? (cs : List Char) : Option (List Char) :=
  match skipComment (skipBlanks cs) with
  | [] => some []
  | cs => lineEnd? cs

/-- Pass over blanks, line ends and comments. A comment lasts until a character that
may not stand in it. -/
def skipGaps (inComment : Bool) : List Char → List Char
  | [] => []
  | c :: rest =>
    if inComment && isPlain c then skipGaps true rest
    else if c == '#' then skipGaps true rest
    else if isBlank c || c == '\n' then skipGaps false rest
    else
      match c, rest with
      | '\r', '\n' :: after => skipGaps false after
      | _, _ => c :: rest

/-! ### Escapes -/

def shortEscape? : Char → Option Char
  | 'b' => some '\x08'
  | 't' => some '\t'
  | 'n' => some '\n'
  | 'f' => some '\x0c'
  | 'r' => some '\r'
  | '"' => some '"'
  | '\\' => some '\\'
  | _ => none

def hexValue? (c : Char) : Option Nat :=
  if '0' ≤ c && c ≤ '9' then some (c.toNat - 0x30)
  else if 'a' ≤ c && c ≤ 'f' then some (c.toNat - 0x57)
  else if 'A' ≤ c && c ≤ 'F' then some (c.toNat - 0x37)
  else none

/-- The character whose code is given by exactly so many hexadecimal digits. -/
def codePoint? (length : Nat) (cs : List Char) : Option Char := do
  let digits := cs.take length
  if digits.length != length then none
  let code ← digits.foldlM (fun n c => (hexValue? c).map (n * 16 + ·)) 0
  if code.isValidChar then some (Char.ofNat code) else none

/-- The character of an escape, and how many characters the escape has after its backslash. -/
def escape? : List Char → Option (Char × Nat)
  | 'u' :: rest => (codePoint? 4 rest).map (·, 5)
  | 'U' :: rest => (codePoint? 8 rest).map (·, 9)
  | c :: _ => (shortEscape? c).map (·, 1)
  | [] => none

/-! ### Texts on one line -/

/-- Read a basic text after its opening quote. `seen` holds the characters so far, last first;
`skip` characters belong to an escape that has been read. -/
def readBasic (seen : List Char) : (skip : Nat) → List Char → Option (String × List Char)
  | _, [] => none
  | skip + 1, _ :: rest => readBasic seen skip rest
  | 0, c :: rest =>
    if c == '"' then some (String.ofList seen.reverse, rest)
    else if c == '\\' then
      match escape? rest with
      | some (e, length) => readBasic (e :: seen) length rest
      | none => none
    else if isPlain c then readBasic (c :: seen) 0 rest
    else none

def readLiteral (cs : List Char) : Option (String × List Char) :=
  let inside (c : Char) : Bool := isPlain c && c != '\''
  match cs.dropWhile inside with
  | '\'' :: rest => some (String.ofList (cs.takeWhile inside), rest)
  | _ => none

/-! ### Texts on several lines -/

/-- The text of several lines that ends with this run of quotes: up to two quotes before the
closing three belong to it. -/
def closeLines (seen : List Char) (quote : Char) (quotes : Nat) (rest : List Char) :
    String × List Char :=
  let own := min (quotes - 3) 2
  (String.ofList (seen.reverse ++ List.replicate own quote),
   List.replicate (quotes - 3 - own) quote ++ rest)

/-- Pass over a backslash at the end of a line with the blanks and line ends after it, if it is one.
The result is the number of characters after the backslash. -/
def joinedLines? (cs : List Char) : Option Nat :=
  (lineEnd? (skipBlanks cs)).map fun rest => cs.length - (blanksAndLineEnds rest).length
where
  blanksAndLineEnds : List Char → List Char
    | [] => []
    | c :: rest =>
      if isBlank c || c == '\n' then blanksAndLineEnds rest
      else
        match c, rest with
        | '\r', '\n' :: after => blanksAndLineEnds after
        | _, _ => c :: rest

/-- Read a text of several lines after its opening quotes. `quotes` counts the quotes just
before; up to two of them in a row are part of the text. With `escapes` a backslash starts an
escape or joins lines. -/
def readLines (quote : Char) (escapes : Bool) (seen : List Char) :
    (quotes skip : Nat) → List Char → Option (String × List Char)
  | quotes, _, [] => if 3 ≤ quotes then some (closeLines seen quote quotes []) else none
  | quotes, skip + 1, _ :: rest => readLines quote escapes seen quotes skip rest
  | quotes, 0, c :: rest =>
    if c == quote then readLines quote escapes seen (quotes + 1) 0 rest
    else if 3 ≤ quotes then some (closeLines seen quote quotes (c :: rest))
    else
      let seen := List.replicate quotes quote ++ seen
      if c == '\\' && escapes then
        match joinedLines? rest with
        | some length => readLines quote escapes seen 0 length rest
        | none =>
          match escape? rest with
          | some (e, length) => readLines quote escapes (e :: seen) 0 length rest
          | none => none
      else if c == '\n' || isPlain c then readLines quote escapes (c :: seen) 0 0 rest
      else
        match c, rest with
        | '\r', '\n' :: _ => readLines quote escapes seen 0 0 rest
        | _, _ => none

/-- Read a text of several lines after its opening quotes; a line end right after them
is no part of it. -/
def readBlock (quote : Char) (escapes : Bool) (cs : List Char) : Option (String × List Char) :=
  readLines quote escapes [] 0 0 ((lineEnd? cs).getD cs)

def readText : List Char → Option (String × List Char)
  | '"' :: '"' :: '"' :: rest => readBlock '"' true rest
  | '"' :: rest => readBasic [] 0 rest
  | '\'' :: '\'' :: '\'' :: rest => readBlock '\'' false rest
  | '\'' :: rest => readLiteral rest
  | _ => none

end ClusterCost.Toml
