import ClusterCost.Decimal.Layout
import ClusterCost.Text.Printable
import ClusterCost.Text.Utf8

/-!
# Why a JSON text is refused

A `Failure` is a cause and, where one is known, the place: the number of bytes read when the failure
was found. Its message gives the place as a line and a column, both counted in bytes, the column
from zero just after a line break.
-/

namespace ClusterCost.Json

/-- A number of a JSON text. Whole numbers that fit 64 bits are kept exactly. -/
inductive Number where
  | natural (n : Nat)
  /-- The number `-n`, for `n` from 1 to `2 ^ 63`. -/
  | negative (n : Nat)
  | real (x : Float)

/-- The value met where another kind of value was expected. -/
inductive Found where
  | null
  | bool (b : Bool)
  | number (n : Number)
  | text (s : String)
  | list
  | object

/-- How a message names the value met. -/
def Found.describe : Found → String
  | null => "null"
  | bool b => "boolean `" ++ toString b ++ "`"
  | number (.natural n) => "integer `" ++ toString n ++ "`"
  | number (.negative n) => "integer `-" ++ toString n ++ "`"
  | number (.real x) => "floating point `" ++ Layout.json.write x ++ "`"
  | text s => "string " ++ Quoted.quote s
  | list => "sequence"
  | object => "map"

/-- The reasons to refuse a text. -/
inductive Cause where
  -- The text ends too early.
  | endsInValue
  | endsInObject
  | endsInList
  | endsInText
  -- The text is not JSON.
  | expectedValue
  | expectedIdent
  | expectedColon
  | expectedCommaOrBrace
  | expectedCommaOrBracket
  | keyNotText
  | trailingComma
  | trailingCharacters
  | invalidNumber
  | numberOutOfRange
  | invalidEscape
  | unfinishedEscape
  | loneSurrogate
  | invalidCodePoint
  | controlCharacter
  | tooDeep
  /-- The source of the bytes failed with this message. -/
  | unreadable (message : String)
  -- The value does not have the wanted form.
  | wrongType (found : Found) (expected : String)
  | wrongValue (found : Found) (expected : String)
  | wrongLength (length : Nat) (expected : String)
  | missingField (name : String)
  | duplicateField (name : String)
  | unknownVariant (name : String) (variants : List String)

/-- The kinds of cause: the text ends early, is not JSON, has the wrong form, or could
not be read. -/
inductive Category where
  | eof
  | syntactic
  | data
  | source
  deriving DecidableEq, Repr

namespace Cause

/-- The names of the variants of an enumeration as a message lists them. -/
def listVariants : List String → String
  | [] => "there are no variants"
  | [a] => "expected `" ++ a ++ "`"
  | [a, b] => "expected `" ++ a ++ "` or `" ++ b ++ "`"
  | names => "expected one of " ++ String.intercalate ", " (names.map fun n => "`" ++ n ++ "`")

def message : Cause → String
  | endsInValue => "EOF while parsing a value"
  | endsInObject => "EOF while parsing an object"
  | endsInList => "EOF while parsing a list"
  | endsInText => "EOF while parsing a string"
  | expectedValue => "expected value"
  | expectedIdent => "expected ident"
  | expectedColon => "expected `:`"
  | expectedCommaOrBrace => "expected `,` or `\x7d`"
  | expectedCommaOrBracket => "expected `,` or `]`"
  | keyNotText => "key must be a string"
  | trailingComma => "trailing comma"
  | trailingCharacters => "trailing characters"
  | invalidNumber => "invalid number"
  | numberOutOfRange => "number out of range"
  | invalidEscape => "invalid escape"
  | unfinishedEscape => "unexpected end of hex escape"
  | loneSurrogate => "lone leading surrogate in hex escape"
  | invalidCodePoint => "invalid unicode code point"
  | controlCharacter => "control character (\\u0000-\\u001F) found while parsing a string"
  | tooDeep => "recursion limit exceeded"
  | unreadable text => text
  | wrongType found expected => "invalid type: " ++ found.describe ++ ", expected " ++ expected
  | wrongValue found expected => "invalid value: " ++ found.describe ++ ", expected " ++ expected
  | wrongLength length expected => "invalid length " ++ toString length ++ ", expected " ++ expected
  | missingField name => "missing field `" ++ name ++ "`"
  | duplicateField name => "duplicate field `" ++ name ++ "`"
  | unknownVariant name variants => "unknown variant `" ++ name ++ "`, " ++ listVariants variants

def category : Cause → Category
  | endsInValue | endsInObject | endsInList | endsInText => .eof
  | unreadable _ => .source
  | wrongType .. | wrongValue .. | wrongLength .. | missingField _ | duplicateField _
  | unknownVariant .. => .data
  | _ => .syntactic

end Cause

/-- A cause and the number of bytes read when it was found; a failure without a place is given one
by what encloses it, or none at all. -/
structure Failure where
  cause : Cause
  place : Option Nat

namespace Failure

/-- The line and the column after this many bytes of a text. -/
def lineAndColumn (text : Bytes) (place : Nat) : Nat × Nat :=
  let lines := (text.take place).splitOn 10
  (lines.length, (lines.getLast?.getD []).length)

/-- The message, with the place if it is known. -/
def message (text : Bytes) (f : Failure) : String :=
  match f.place with
  | none => f.cause.message
  | some place =>
    let (line, column) := lineAndColumn text place
    f.cause.message ++ " at line " ++ toString line ++ " column " ++ toString column

end Failure

end ClusterCost.Json
