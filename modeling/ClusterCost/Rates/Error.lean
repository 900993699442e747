import ClusterCost.Decimal.Numeral
import ClusterCost.Files
import ClusterCost.Json.Error

/-!
# Errors of rates

Why a change of the rate card is refused, and why a price cannot be given.
-/

namespace ClusterCost

/-- Why a JSON text is refused, with the line and the column where that was found. -/
structure Json.Refusal where
  cause : Json.Cause
  position : Option (Nat × Nat)

namespace Json.Refusal

/-- The refusal of a text by a failure of reading it. -/
def ofFailure (text : Bytes) (f : Failure) : Refusal :=
  ⟨f.cause, f.place.map (Failure.lineAndColumn text)⟩

/-- The wording of a refusal. -/
def message (r : Refusal) : String :=
  match r.position with
  | none => r.cause.message
  | some (line, column) =>
    r.cause.message ++ " at line " ++ toString line ++ " column " ++ toString column

end Json.Refusal

/-- Why a pricing file cannot be used. -/
inductive ConfigError where
  | read (path : String) (error : FileError)
  | write (path : String) (error : FileError)
  | parse (path : String) (refusal : Json.Refusal)

def ConfigError.message : ConfigError → String
  | read path error => "failed to read pricing config " ++ path ++ ": " ++ error.message
  | write path error => "failed to write pricing config " ++ path ++ ": " ++ error.message
  | parse path refusal => "failed to parse pricing config " ++ path ++ ": " ++ refusal.message

/-- Why a text is no value for a field. -/
inductive ValueError where
  | numeral (error : NumeralError)
  | outOfRange
  | notFlag
  deriving DecidableEq, Repr

def ValueError.message : ValueError → String
  | numeral error => error.message
  | outOfRange => "rate must be a non-negative finite number"
  | notFlag => "expected 'true' or 'false'"

/-- Why a rate card is not changed or a price not given. -/
inductive PricingError where
  | config (error : ConfigError)
  /-- The update is not a JSON object. -/
  | decode (refusal : Json.Refusal)
  | unknownField (name : String)
  /-- The update gives this name a value that is not a text. -/
  | nonText (name : String)
  | invalidValue (field value : String) (error : ValueError)
  /-- A rate that is needed is no number. -/
  | parse (key value : String) (error : NumeralError)
  /-- The rate table has no row for these features. -/
  | missingRate (features : String)

def PricingError.message : PricingError → String
  | config error => error.message
  | decode refusal => "failed to decode pricing update: " ++ refusal.message
  | unknownField name => "unknown pricing field '" ++ name ++ "'"
  | nonText name => "type error while updating config for " ++ name
  | invalidValue field value error =>
    "invalid value '" ++ value ++ "' for pricing field '" ++ field ++ "': " ++ error.message
  | parse key value error =>
    "failed to parse " ++ key ++ " value '" ++ value ++ "': " ++ error.message
  | missingRate features => "no node pricing entry for features '" ++ features ++ "'"

end ClusterCost
