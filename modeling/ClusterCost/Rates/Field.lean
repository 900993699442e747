/-!
# Fields of a rate card

A rate card has 23 fields, each a text. A field has a name by which it is set, a key under which it
stands in pricing files, a kind that says which texts are accepted when it is set, and a default.
-/

namespace ClusterCost

/-- The fields of a rate card. -/
inductive Field where
  | provider
  | description
  | cpu
  | spotCpu
  | ram
  | spotRam
  | gpu
  | spotGpu
  | storage
  | zoneEgress
  | regionEgress
  | internetEgress
  | firstFiveRules
  | additionalRule
  | ingressData
  | spotLabel
  | spotLabelValue
  | gpuLabel
  | gpuLabelValue
  | clusterName
  | customPricesEnabled
  | discount
  | negotiatedDiscount
  deriving DecidableEq, Repr

/-- What a field may be set to. -/
inductive FieldKind where
  | text
  /-- A finite number that is not negative, or nothing. -/
  | rate
  /-- One of the words `true` and `false`. -/
  | flag
  deriving DecidableEq, Repr

namespace Field

/-- The fields in the order in which they are listed. -/
def all : List Field :=
  [provider, description, cpu, spotCpu, ram, spotRam, gpu, spotGpu, storage, zoneEgress,
   regionEgress,
    internetEgress, firstFiveRules, additionalRule, ingressData, spotLabel, spotLabelValue,
    gpuLabel,
    gpuLabelValue, clusterName, customPricesEnabled, discount, negotiatedDiscount]

@[simp] theorem mem_all (f : Field) : f ∈ all := by cases f <;> decide

theorem nodup_all : all.Nodup := by decide

def name : Field → String
  | provider => "Provider"
  | description => "Description"
  | cpu => "CPU"
  | spotCpu => "SpotCPU"
  | ram => "RAM"
  | spotRam => "SpotRAM"
  | gpu => "GPU"
  | spotGpu => "SpotGPU"
  | storage => "Storage"
  | zoneEgress => "ZoneNetworkEgress"
  | regionEgress => "RegionNetworkEgress"
  | internetEgress => "InternetNetworkEgress"
  | firstFiveRules => "FirstFiveForwardingRulesCost"
  | additionalRule => "AdditionalForwardingRuleCost"
  | ingressData => "LBIngressDataCost"
  | spotLabel => "SpotLabel"
  | spotLabelValue => "SpotLabelValue"
  | gpuLabel => "GpuLabel"
  | gpuLabelValue => "GpuLabelValue"
  | clusterName => "ClusterName"
  | customPricesEnabled => "CustomPricesEnabled"
  | discount => "Discount"
  | negotiatedDiscount => "NegotiatedDiscount"

def key : Field → String
  | provider => "provider"
  | description => "description"
  | cpu => "CPU"
  | spotCpu => "spotCPU"
  | ram => "RAM"
  | spotRam => "spotRAM"
  | gpu => "GPU"
  | spotGpu => "spotGPU"
  | storage => "storage"
  | zoneEgress => "zoneNetworkEgress"
  | regionEgress => "regionNetworkEgress"
  | internetEgress => "internetNetworkEgress"
  | firstFiveRules => "firstFiveForwardingRulesCost"
  | additionalRule => "additionalForwardingRuleCost"
  | ingressData => "LBIngressDataCost"
  | spotLabel => "spotLabel"
  | spotLabelValue => "spotLabelValue"
  | gpuLabel => "gpuLabel"
  | gpuLabelValue => "gpuLabelValue"
  | clusterName => "clusterName"
  | customPricesEnabled => "customPricesEnabled"
  | discount => "discount"
  | negotiatedDiscount => "negotiatedDiscount"

def kind : Field → FieldKind
  | provider | description | spotLabel | spotLabelValue | gpuLabel | gpuLabelValue | clusterName =>
    .text
  | customPricesEnabled => .flag
  | _ => .rate

/-- The text of a field on the default card. -/
def initial : Field → String
  | provider => "custom"
  | description => "Default prices based on GCP us-central1"
  | cpu => "0.031611"
  | spotCpu => "0.006655"
  | ram => "0.004237"
  | spotRam => "0.000892"
  | gpu => "0.95"
  | spotGpu => "0.308"
  | storage => "0.00005479452"
  | zoneEgress => "0.01"
  | regionEgress => "0.01"
  | internetEgress => "0.12"
  | firstFiveRules => "0.025"
  | additionalRule => "0.010"
  | ingressData => "0.008"
  | customPricesEnabled => "false"
  | spotLabel | spotLabelValue | gpuLabel | gpuLabelValue | clusterName | discount
  | negotiatedDiscount => ""

end Field

end ClusterCost
