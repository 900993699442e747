import ClusterCost.Dictionary
import ClusterCost.Rates.Card

/-!
# The rate table

Nodes are priced from a table of three rows that is built from a rate card: plain nodes, spot nodes
and nodes with a GPU. A node that is both spot and has a GPU has no row. The table also keeps the
labels by which spot and GPU nodes are told, as they were when it was built.
-/

namespace ClusterCost

structure NodePrice where
  cpu : String
  ram : String
  gpu : String
  deriving DecidableEq, Repr

namespace NodePrice

def reader : Json.Reader NodePrice := Json.Record.read {
  name := "struct NodePrice"
  blank := ⟨"", "", ""⟩
  slots := [
    .of "CPU" .required .text fun s p => { p with cpu := s },
    .of "RAM" .required .text fun s p => { p with ram := s },
    .of "GPU" .defaulted .text fun s p => { p with gpu := s }] }

def toJson (p : NodePrice) : Json.Value :=
  .object [("CPU", .text p.cpu), ("RAM", .text p.ram), ("GPU", .text p.gpu)]

end NodePrice

/-- The price of a node: its rates and its number of GPUs, empty if it has none. -/
structure NodeCharge where
  vcpuCost : String
  ramCost : String
  gpuCost : String
  gpu : String
  deriving DecidableEq, Repr

namespace NodeCharge

def reader : Json.Reader NodeCharge := Json.Record.read {
  name := "struct Node"
  blank := ⟨"", "", "", ""⟩
  slots := [
    .of "vCPUCost" .required .text fun s n => { n with vcpuCost := s },
    .of "ramCost" .required .text fun s n => { n with ramCost := s },
    .of "gpuCost" .required .text fun s n => { n with gpuCost := s },
    .of "gpu" .required .text fun s n => { n with gpu := s }] }

def toJson (n : NodeCharge) : Json.Value :=
  .object
    [("vCPUCost", .text n.vcpuCost), ("ramCost", .text n.ramCost), ("gpuCost", .text n.gpuCost),
    ("gpu", .text n.gpu)]

end NodeCharge

/-! ### Features -/

namespace Features

/-- The features of a plain node. -/
def plain : String := "default"

/-- The features of a spot node. -/
def spot : String := "default,spot"

/-- The features of a node with a GPU. -/
def withGpu : String := "default,gpu"

end Features

/-- What the price of a node depends on: its features and its type of GPU, empty if it has none. -/
structure NodeKey where
  features : String
  gpuType : String
  deriving DecidableEq, Repr

/-- The labels of a node or a volume. -/
abbrev Labels := Dictionary String

/-- The labels that tell spot and GPU nodes. -/
structure MarkerLabels where
  spotLabel : String
  spotLabelValue : String
  gpuLabel : String
  gpuLabelValue : String
  deriving DecidableEq, Repr

namespace MarkerLabels

def ofCard (c : RateCard) : MarkerLabels :=
  ⟨c.text .spotLabel, c.text .spotLabelValue, c.text .gpuLabel, c.text .gpuLabelValue⟩

/-- The key of a node with these labels. A spot label counts only if its value is not empty. -/
def key (m : MarkerLabels) (labels : Labels) : NodeKey where
  features :=
    match labels.get? m.spotLabel with
    | some value =>
      if value != "" && value == m.spotLabelValue then Features.spot else Features.plain
    | none => Features.plain
  gpuType := (labels.get? m.gpuLabel).getD ""

end MarkerLabels

structure RateTable where
  rows : Dictionary NodePrice
  markers : MarkerLabels

namespace RateTable

def empty : RateTable := ⟨.empty, ⟨"", "", "", ""⟩⟩

def ofCard (c : RateCard) : RateTable where
  rows := .ofList [
    (Features.plain, ⟨c.text .cpu, c.text .ram, ""⟩),
    (Features.spot, ⟨c.text .spotCpu, c.text .spotRam, ""⟩),
    (Features.withGpu, ⟨c.text .cpu, c.text .ram, c.text .gpu⟩)]
  markers := .ofCard c

/-- The price of a node. Unknown features count as those of a plain node; a node with a GPU needs a
row for its features and the GPU together. -/
def price (t : RateTable) (key : NodeKey) : Except PricingError NodeCharge :=
  let base := if t.rows.contains key.features then key.features else Features.plain
  let (features, gpus) := if key.gpuType == "" then (base, "") else (base ++ ",gpu", "1")
  match t.rows.get? features with
  | some row => .ok ⟨row.cpu, row.ram, row.gpu, gpus⟩
  | none => .error (.missingRate features)

end RateTable

/-! ### Volumes -/

/-- What the price of a volume depends on. -/
structure VolumeKey where
  features : String
  storageClass : String
  id : String
  deriving DecidableEq, Repr

/-- A volume: its labels, its storage class and its handle, each empty if it has none. -/
structure Volume where
  labels : Labels
  storageClass : String
  handle : String

namespace Volume

/-- The labels that name a region, the newest first. -/
def regionLabels : List String :=
  ["topology.kubernetes.io/region", "failure-domain.beta.kubernetes.io/region"]

def region (v : Volume) (default : String) : String :=
  (regionLabels.findSome? v.labels.get?).getD default

/-- The key of a volume whose storage class has these parameters. -/
def key (v : Volume) (parameters : Labels) (defaultRegion : String) : VolumeKey where
  features := v.region defaultRegion ++ "," ++ (parameters.get? "type").getD ""
  storageClass := v.storageClass
  id := v.handle

end Volume

structure VolumePrice where
  cost : String
  deriving DecidableEq, Repr

namespace VolumePrice

def reader : Json.Reader VolumePrice := Json.Record.read {
  name := "struct Pv"
  blank := ⟨""⟩
  slots := [.of "cost" .required .text fun s _ => ⟨s⟩] }

def toJson (p : VolumePrice) : Json.Value := .object [("cost", .text p.cost)]

end VolumePrice

end ClusterCost
