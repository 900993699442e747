import ClusterCost.Rates.Provider

/-!
# Concurrent use of a provider

Calls on one provider may overlap. The card is behind one lock and the table behind another, and
what a call does between two operations on locks is one step; `SharedProvider.step` lets one call
take its next step. An update changes the card under the lock of the card, and gives that back
before it takes the lock of the table to rebuild the table. A rebuild reads the card only once it
has the lock of the table.
-/

namespace ClusterCost

/-- A change of the card, or why it is refused. -/
abbrev CardEdit := RateCard → Except PricingError RateCard

/-- A call on a provider. -/
inductive Call where
  | update (edit : CardEdit)
  /-- Change the card by a body that holds no update. -/
  | undecoded (refusal : Json.Refusal)
  | rebuild

namespace Call

/-- An update by a JSON body, which is decoded before any lock is taken. -/
def updateByBody (body : CardUpdate.Body) : Call :=
  match CardUpdate.ofBody body with
  | .ok changes => update changes.apply
  | .error refusal => undecoded refusal

/-- An update by a map of names to texts. -/
def updateByMap (values : Dictionary String) : Call := update (·.setAll values.entries)

end Call

/-- How far a call has come. The result of a call is the card of its own commit, if it
is an update. -/
inductive CallPhase where
  /-- An update waits for the lock of the card. -/
  | waiting (edit : CardEdit)
  /-- An update holds the lock of the card and has a copy of the card. -/
  | editing (edit : CardEdit) (copy : RateCard)
  /-- The card is free again; a rebuild of the table is still to come. -/
  | stale (result : Option RateCard)
  /-- The call holds the lock of the table. -/
  | rebuilding (result : Option RateCard)
  /-- The call holds the lock of the table and has read a card. -/
  | building (card : RateCard) (result : Option RateCard)
  | finished (result : Option RateCard)
  | refused (error : PricingError)

namespace CallPhase

def begin : Call → CallPhase
  | .update edit => waiting edit
  | .undecoded refusal => refused (.decode refusal)
  | .rebuild => stale none

/-- Whether the call is between the commit of its change and the end of its rebuild. -/
def owesRebuild : CallPhase → Bool
  | stale (some _) | rebuilding (some _) | building _ (some _) => true
  | _ => false

/-- Whether the call holds the lock of the table. -/
def holdsTable : CallPhase → Bool
  | rebuilding _ | building .. => true
  | _ => false

end CallPhase

/-- A change of the card that was accepted: the call that made it, its edit, and the
card that came of it. -/
structure Commit where
  call : Nat
  edit : CardEdit
  card : RateCard

/-- A provider with the calls on it. -/
structure SharedProvider where
  provider : Provider
  files : Files
  calls : List CallPhase
  /-- The call that holds the lock of the card. -/
  cardHolder : Option Nat := none
  /-- The call that holds the lock of the table. -/
  tableHolder : Option Nat := none
  commits : List Commit := []
  rebuilds : Nat := 0

namespace SharedProvider

/-- A new provider over a store, on which these calls begin. -/
def start (clusterId : String) (store : Store) (files : Files) (calls : List Call) :
    SharedProvider :=
  { provider := { clusterId, store }, files, calls := calls.map .begin }

def card (s : SharedProvider) : RateCard := s.provider.card

def setCall (s : SharedProvider) (i : Nat) (phase : CallPhase) : SharedProvider :=
  { s with calls := s.calls.set i phase }

/-- A call changes its copy of the card, keeps that in the file, makes it the card, and
gives back the lock. -/
def commit (s : SharedProvider) (i : Nat) (edit : CardEdit) (copy : RateCard) : SharedProvider :=
  match { s.provider.store with card := copy }.update s.files edit with
  | (.error e, _, files) => { s with files, cardHolder := none }.setCall i (.refused e)
  | (.ok card, store, files) =>
    { s with
      provider := { s.provider with store }, files, cardHolder := none
      commits := ⟨i, edit, card⟩ :: s.commits }.setCall i (.stale (some card))

/-- A call replaces the table and gives back the lock. -/
def replaceTable (s : SharedProvider) (i : Nat) (card : RateCard) (result : Option RateCard) :
    SharedProvider :=
  { s with
    provider := { s.provider with table := .ofCard card }
    tableHolder := none
    rebuilds := s.rebuilds + 1 }.setCall i (.finished result)

/-- Let the call at a place take its next step, if it can: a lock can be taken when no other call
holds it, and the card can be read when no call holds its lock. -/
def step (s : SharedProvider) (i : Nat) : Option SharedProvider :=
  match s.calls[i]? with
  | some (.waiting edit) =>
    if s.cardHolder.isNone then
      some ({ s with cardHolder := some i }.setCall i (.editing edit s.card))
    else none
  | some (.editing edit copy) => some (s.commit i edit copy)
  | some (.stale result) =>
    if s.tableHolder.isNone then
      some ({ s with tableHolder := some i }.setCall i (.rebuilding result))
    else none
  | some (.rebuilding result) =>
    if s.cardHolder.isNone then some (s.setCall i (.building s.card result)) else none
  | some (.building card result) => some (s.replaceTable i card result)
  | some (.finished _) | some (.refused _) | none => none

/-- Let calls take steps in an order; a step that is not possible is left out. -/
def run (s : SharedProvider) (order : List Nat) : SharedProvider :=
  order.foldl (fun s i => (s.step i).getD s) s

end SharedProvider

end ClusterCost
