import ClusterCost.Dictionary
import ClusterCost.Settings.Setting
import ClusterCost.Toml.Document

/-!
# Layers of settings

A layer holds the settings of one source under their names. Names are written in any case. A
key may also lead into a compound setting, as `a.b` or `a[0]` does; then the name at its
front has a compound setting.
-/

namespace ClusterCost

namespace SettingKey

/-- A key in lower case. Only the letters of ASCII are changed; no name of a setting has a letter
whose upper case is another. -/
def fold (key : String) : String := String.ofList (key.toList.map Char.toLower)

/-- Whether a character may stand in a part of a key. -/
def isPart (c : Char) : Bool := c.isAlphanum || c == ' ' || c == '_' || c == '-'

/-- Pass over an index in brackets, after the opening one. -/
def dropIndex? (cs : List Char) : Option (List Char) :=
  let isSpace (c : Char) : Bool := c == ' '
  let unsigned := match cs.dropWhile isSpace with
    | '-' :: rest => rest
    | rest => rest
  if (unsigned.takeWhile Numeral.isDigit).isEmpty then none
  else
    match (unsigned.dropWhile Numeral.isDigit).dropWhile isSpace with
    | ']' :: rest => some rest
    | _ => none

/-- Whether what follows the first part of a key is a way into a compound setting; `fuel`
is at least its length. -/
def isWay : (fuel : Nat) → List Char → Bool
  | _, [] => true
  | 0, _ => false
  | fuel + 1, '.' :: rest => !(rest.takeWhile isPart).isEmpty && isWay fuel (rest.dropWhile isPart)
  | fuel + 1, '[' :: rest => (dropIndex? rest).elim false (isWay fuel)
  | _, _ => false

/-- The name of the compound setting into which a key leads, if it does. -/
def compound? (key : String) : Option String :=
  let part := key.toList.takeWhile isPart
  let way := key.toList.dropWhile isPart
  if !part.isEmpty && !way.isEmpty && isWay way.length way then some (String.ofList part) else none

end SettingKey

namespace Setting

/-- The entry of a layer for a key and its setting. -/
def entry (key : String) (s : Setting) : String × Setting :=
  let key := SettingKey.fold key
  match SettingKey.compound? key with
  | some name => (name, compound)
  | none => (key, s)

/-- The layer of keys and their settings; of two of one name the later counts. -/
def layer (entries : List (String × Setting)) : Dictionary Setting :=
  .ofList (entries.map fun (key, s) => entry key s)

end Setting

namespace Environment

/-- What the names of the variables that hold settings begin with, in any case. -/
def mark : String := "cost_model_"

def layer (environment : Dictionary String) : Dictionary Setting :=
  Setting.layer (environment.entries.filterMap fun (name, value) =>
    let name := SettingKey.fold name
    if name.startsWith mark then
      some (String.ofList (name.toList.drop mark.length), .ofVariable value)
    else none)

end Environment

/-! ### Texts of files -/

/-- The formats of files with settings. -/
inductive SettingsFormat where
  | toml
  | json
  deriving DecidableEq, Repr

namespace SettingsFormat

/-- The end of a file's name that tells its format. -/
def ending : SettingsFormat → String
  | toml => "toml"
  | json => "json"

/-- All formats, in the order in which they are tried. -/
def all : List SettingsFormat := [toml, json]

/-- The layer of a file's text, if it is a text of the format. -/
def layer? (f : SettingsFormat) (s : String) : Option (Dictionary Setting) :=
  match f with
  | toml =>
    (Toml.read s).map fun members => Setting.layer (members.map fun (key, v) => (key, .ofToml v))
  | json => (Json.readText (.members Setting.reader) (Utf8.encode s)).toOption.map Setting.layer

end SettingsFormat

end ClusterCost
