import ClusterCost.Rates.Charge
import ClusterCost.Rates.Store
import ClusterCost.Rates.Table

/-!
# The pricing provider

A provider prices nodes from a rate table over a store, and changes the card of the store. The table
is rebuilt after each accepted update; otherwise it keeps what it had when it was last built.
-/

namespace ClusterCost

/-- A provider for one cluster. -/
structure Provider where
  clusterId : String
  store : Store
  table : RateTable := .empty

namespace Provider

def card (p : Provider) : RateCard := p.store.card

/-- The provider with its table rebuilt from the current card. -/
def rebuild (p : Provider) : Provider := { p with table := .ofCard p.card }

def nodeKey (p : Provider) (labels : Labels) : NodeKey := p.table.markers.key labels

def nodePrice (p : Provider) (key : NodeKey) : Except PricingError NodeCharge := p.table.price key

def volumePrice (p : Provider) : VolumePrice := ⟨p.card.text .storage⟩

/-- The label that marks a GPU node and its value. -/
def gpuMarker (p : Provider) : String × String :=
  (p.table.markers.gpuLabel, p.table.markers.gpuLabelValue)

/-- What the provider says of its cluster: its name if it has one, its provider and its id. -/
def clusterInfo (p : Provider) : Dictionary String :=
  let name := p.card.text .clusterName
  .ofList
    ((if name == "" then [] else [("name", name)]) ++ [("provider", "custom"), ("id", p.clusterId)])

/-- Change the card and rebuild the table, or leave both as they were. The result is
the new card. -/
def update (p : Provider) (files : Files) (edit : RateCard → Except PricingError RateCard) :
    Except PricingError RateCard × Provider × Files :=
  match p.store.update files edit with
  | (.error e, store, files) => (.error e, { p with store }, files)
  | (.ok card, store, files) => (.ok card, { p with store }.rebuild, files)

def editOfBody (body : CardUpdate.Body) (card : RateCard) : Except PricingError RateCard :=
  match CardUpdate.ofBody body with
  | .ok update => update.apply card
  | .error refusal => .error (.decode refusal)

end Provider

/-! ### Status of the provider's sources -/

/-- A check of the credentials that a provider uses. -/
structure CredentialCheck where
  message : String
  status : Bool
  additionalInfo : String
  deriving DecidableEq, Repr

namespace CredentialCheck

def reader : Json.Reader CredentialCheck := Json.Record.read {
  name := "struct ServiceAccountCheck"
  blank := ⟨"", false, ""⟩
  slots := [
    .of "message" .required .text fun s c => { c with message := s },
    .of "status" .required .bool fun b c => { c with status := b },
    .of "additionalInfo" .required .text fun s c => { c with additionalInfo := s }] }

def toJson (c : CredentialCheck) : Json.Value :=
  .object
    [("message", .text c.message), ("status", .bool c.status),
     ("additionalInfo", .text c.additionalInfo)]

end CredentialCheck

/-- The checks of the credentials that a provider uses. -/
structure CredentialStatus where
  checks : List CredentialCheck
  deriving DecidableEq, Repr

namespace CredentialStatus

def reader : Json.Reader CredentialStatus := Json.Record.read {
  name := "struct ServiceAccountStatus"
  blank := ⟨[]⟩
  slots := [.of "checks" .required (.list CredentialCheck.reader) fun checks _ => ⟨checks⟩] }

def toJson (s : CredentialStatus) : Json.Value :=
  .object [("checks", .list (s.checks.map CredentialCheck.toJson))]

end CredentialStatus

/-- The state of a source of prices. -/
structure PricingSource where
  name : String
  enabled : Bool
  available : Bool
  error : String
  deriving DecidableEq, Repr

namespace PricingSource

def reader : Json.Reader PricingSource := Json.Record.read {
  name := "struct PricingSource"
  blank := ⟨"", false, false, ""⟩
  slots := [
    .of "name" .required .text fun s p => { p with name := s },
    .of "enabled" .required .bool fun b p => { p with enabled := b },
    .of "available" .required .bool fun b p => { p with available := b },
    .of "error" .defaulted .text fun s p => { p with error := s }] }

def toJson (p : PricingSource) : Json.Value :=
  .object [("name", .text p.name), ("enabled", .bool p.enabled), ("available", .bool p.available),
    ("error", .text p.error)]

end PricingSource

namespace Provider

/-- A provider with a rate card uses no credentials. -/
def credentialStatus (_ : Provider) : CredentialStatus := ⟨[]⟩

/-- A provider with a rate card has no outside sources. -/
def sources (_ : Provider) : Dictionary PricingSource := .empty

/-- The name of the management platform and its fee: none. -/
def management (_ : Provider) : String × Float := ("", 0)

end Provider

end ClusterCost
