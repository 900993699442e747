import ClusterCost.Dictionary
import ClusterCost.Toml.Moment
import ClusterCost.Toml.Number

/-!
# The values and tables of TOML

A table grows while its text is read: by a key and its value, and by headings. How a table came
about decides what may still be added to it, and nothing may be given twice.
-/

namespace ClusterCost.Toml

/-- How a table came about. -/
inductive Origin where
  /-- Between braces; nothing can be added. -/
  | braces
  | heading
  /-- By the heading of a table below it; it can still get its own. -/
  | implied
  /-- By a dotted key; further dotted keys can add to it. -/
  | dotted
  deriving DecidableEq, Repr

/-- A value. Members stand in the order in which they were given. -/
inductive Value where
  | bool (b : Bool)
  | integer (n : Int)
  | real (x : Float)
  | text (s : String)
  | moment (m : Moment)
  | list (items : List Value)
  | table (origin : Origin) (members : List (String × Value))
  /-- A list of tables, each of which has a heading; the last one can still grow. -/
  | tables (earlier : List (List (String × Value))) (last : List (String × Value))

/-- The members of a table. -/
abbrev Members := List (String × Value)

/-- A key: the names of the tables on the way, and a last name. -/
structure Key where
  path : List String
  name : String
  deriving DecidableEq, Repr

namespace Members

/-- Give a name its value, in place of one that it has. -/
def put (ms : Members) (name : String) (v : Value) : Members :=
  if (ms.lookup name).isSome then Dictionary.replace ms name v else ms ++ [(name, v)]

/-- Give a key its value. The tables on the way are made by dotted keys, and the value is new; a
table that a longer heading implied can only be passed through. -/
def assign (name : String) (v : Value) : (path : List String) → Members → Option Members
  | [], ms => if (ms.lookup name).isSome then none else some (ms ++ [(name, v)])
  | step :: path, ms =>
    match ms.lookup step with
    | none => (assign name v path []).map fun inner => ms.put step (.table .dotted inner)
    | some (.table .dotted inner) =>
      (assign name v path inner).map fun inner => ms.put step (.table .dotted inner)
    | some (.table .implied inner) =>
      if path.isEmpty then none
      else (assign name v path inner).map fun inner => ms.put step (.table .implied inner)
    | some (.tables earlier last) =>
      if path.isEmpty then none
      else (assign name v path last).map fun last => ms.put step (.tables earlier last)
    | some _ => none

def assignAll (entries : List (Key × Value)) (ms : Members) : Option Members :=
  entries.foldlM (fun ms (key, v) => ms.assign key.name v key.path) ms

/-- Change what a heading names. The tables on the way are there or implied; of a list of
tables the last is meant. -/
def define (change : Option Value → Option Value) (name : String) :
    (path : List String) → Members → Option Members
  | [], ms => (change (ms.lookup name)).map fun v => ms.put name v
  | step :: path, ms =>
    match ms.lookup step with
    | none => (define change name path []).map fun inner => ms.put step (.table .implied inner)
    | some (.table .braces _) => none
    | some (.table origin inner) =>
      (define change name path inner).map fun inner => ms.put step (.table origin inner)
    | some (.tables earlier last) =>
      (define change name path last).map fun last => ms.put step (.tables earlier last)
    | some _ => none

end Members

inductive Heading where
  | table (key : Key)
  /-- Of one more table in a list of tables. -/
  | item (key : Key)
  deriving DecidableEq, Repr

/-- A heading with the entries below it. -/
structure Section where
  heading : Heading
  entries : List (Key × Value)

/-- Add a section. A table that has a heading or came about by dotted keys cannot get
another heading. -/
def Section.addTo (s : Section) (ms : Members) : Option Members :=
  match s.heading with
  | .table key =>
    ms.define (fun
      | none => (Members.assignAll s.entries []).map (.table .heading)
      | some (.table .implied inner) => (Members.assignAll s.entries inner).map (.table .heading)
      | some _ => none) key.name key.path
  | .item key =>
    ms.define (fun
      | none => (Members.assignAll s.entries []).map (.tables [])
      | some (.tables earlier last) =>
        (Members.assignAll s.entries []).map (.tables (earlier ++ [last]))
      | some _ => none) key.name key.path

end ClusterCost.Toml
