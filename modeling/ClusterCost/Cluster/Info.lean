import ClusterCost.Dictionary
import ClusterCost.Json.Record
import ClusterCost.Json.Value

/-!
# Clusters

What is known of a cluster, the NameID under which it is shown, and the record of the
service's own cluster.
-/

namespace ClusterCost

/-- What is known of a cluster. -/
structure ClusterInfo where
  id : String
  name : String
  profile : String
  provider : String
  provisioner : String
  deriving DecidableEq, Repr

namespace ClusterInfo

def reader : Json.Reader ClusterInfo := Json.Record.read {
  name := "struct ClusterInfo"
  blank := ⟨"", "", "", "", ""⟩
  slots := [
    .of "id" .required .text fun s c => { c with id := s },
    .of "name" .required .text fun s c => { c with name := s },
    .of "profile" .required .text fun s c => { c with profile := s },
    .of "provider" .required .text fun s c => { c with provider := s },
    .of "provisioner" .required .text fun s c => { c with provisioner := s }] }

def toJson (c : ClusterInfo) : Json.Value :=
  .object
    [("id", .text c.id), ("name", .text c.name), ("profile", .text c.profile),
      ("provider", .text c.provider),
    ("provisioner", .text c.provisioner)]

/-! ### NameIDs -/

/-- The name, a slash and the id; of a cluster without a name the id alone. -/
def nameId (c : ClusterInfo) : String := if c.name == "" then c.id else c.name ++ "/" ++ c.id

end ClusterInfo

/-- The id and the name of a NameID, which is cut at its first slash. -/
def splitNameId (nameId : String) : String × String :=
  let cs := nameId.toList
  match cs.dropWhile (· != '/') with
  | [] => (nameId, "")
  | _ :: id => (String.ofList id, String.ofList (cs.takeWhile (· != '/')))

/-! ### The own cluster -/

/-- Why the service's own cluster has no record. -/
inductive IdentityError where
  | missingId
  | missingName
  deriving DecidableEq, Repr

def IdentityError.message : IdentityError → String
  | missingId => "local cluster info missing id"
  | missingName => "local cluster info missing name"

namespace ClusterInfo

/-- The record that a local identity makes. -/
def ofIdentity (values : Dictionary String) : Except IdentityError ClusterInfo :=
  match values.get? "id", values.get? "name" with
  | none, _ => .error .missingId
  | _, none => .error .missingName
  | some id, some name =>
    let optional (key : String) : String := (values.get? key).getD ""
    .ok ⟨id, name, optional "clusterProfile", optional "provider", optional "provisioner"⟩

end ClusterInfo

end ClusterCost
