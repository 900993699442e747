import ClusterCost.Json.Reader

/-!
# Reading records

A record is read over a blank value: each member whose key names a slot is put into that slot, other
members are passed over, and a slot may be named once. A record may also be given as the list of its
values in the order of its slots.
-/

namespace ClusterCost.Json

/-- When a slot may be left out. -/
inductive Presence where
  | required
  /-- An object may leave the slot out; the list form may not. -/
  | nullable
  /-- The slot keeps the blank's value when it is left out. -/
  | defaulted
  deriving DecidableEq, Repr

/-- A slot of a record: its name, and how its value is put into the record. -/
structure Slot (α : Type) where
  name : String
  presence : Presence
  put : Reading → Outline → α → Except Failure α

namespace Slot

/-- A slot whose value is read and then set. -/
def of {α β : Type} (name : String) (presence : Presence) (read : Reader β) (set : β → α → α) :
    Slot α :=
  ⟨name, presence, fun r o a => (read r o).map (set · a)⟩

end Slot

/-- A kind of record: its name in messages, a blank value and its slots. -/
structure Record (α : Type) where
  name : String
  blank : α
  slots : List (Slot α)

namespace Record

variable {α : Type}

/-- A record under construction: its value so far and the names of the slots already put. -/
structure Draft (α : Type) where
  value : α
  named : List String

def putMember (rec : Record α) (r : Reading) (d : Draft α) (member : Key × Outline) :
    Except Failure (Draft α) := do
  let (key, value) := member
  let name ← key.text
  match rec.slots.find? (·.name == name) with
  | some slot =>
    if d.named.contains name then throw ⟨.duplicateField name, r.place key.next⟩
    pure ⟨← slot.put r value d.value, name :: d.named⟩
  | none =>
    match if r.held then none else value.skipFailure with
    | some failure => throw failure
    | none => pure d

/-- The first slot that is missing from an object with these names. -/
def missing? (rec : Record α) (named : List String) : Option String :=
  (rec.slots.find? fun slot => slot.presence == .required && !named.contains slot.name).map (·.name)

/-- Put the values of a list into the slots, in order; `done` slots are filled. -/
def putItems (rec : Record α) (r : Reading) (closing : Except Fault Nat) :
    (done : Nat) → List (Slot α) → List Outline → α → Except Failure α
  | _, [], _, value => pure value
  | done, slot :: slots, item :: items, value => do
    putItems rec r closing (done + 1) slots items (← slot.put r item value)
  | done, slot :: slots, [], value =>
    match closing with
    | .error fault => throw fault.kept
    | .ok _ =>
      if slot.presence == .defaulted then putItems rec r closing (done + 1) slots [] value
      else
        let plural := if rec.slots.length == 1 then " element" else " elements"
        Reader.tooShort r done (rec.name ++ " with " ++ toString rec.slots.length ++ plural) closing

def read (rec : Record α) : Reader α
  | r, .object start members closing => do
    let inner ← r.enter start
    let draft ← members.foldlM (rec.putMember inner) ⟨rec.blank, []⟩
    match closing with
    | .error fault => throw fault.kept
    | .ok stop =>
      match rec.missing? draft.named with
      | some name => throw ⟨.missingField name, r.place stop⟩
      | none => pure draft.value
  | r, .list start items closing => do
    let inner ← r.enter start
    let value ← rec.putItems inner closing 0 rec.slots items rec.blank
    Reader.overrun r rec.slots.length items closing
    pure value
  | r, o => .error (o.mistyped r rec.name)

end Record

end ClusterCost.Json
