import ClusterCost.Rates.Card

/-!
# Charges

What a rate card charges for network traffic and load balancers, and how two discounts combine.
-/

namespace ClusterCost

def RateCard.rate (c : RateCard) (f : Field) : Except PricingError Float :=
  (RateCard.rateOf (c.text f)).mapError (.parse f.key (c.text f))

structure NetworkRates where
  zone : Float
  region : Float
  internet : Float

namespace NetworkRates

/-- The rates that a card charges for network traffic. -/
def ofCard (c : RateCard) : Except PricingError NetworkRates := do
  pure ⟨← c.rate .zoneEgress, ← c.rate .regionEgress, ← c.rate .internetEgress⟩

def reader : Json.Reader NetworkRates := Json.Record.read {
  name := "struct Network"
  blank := ⟨0, 0, 0⟩
  slots := [
    .of "zoneNetworkEgressCost" .required .real fun x n => { n with zone := x },
    .of "regionNetworkEgressCost" .required .real fun x n => { n with region := x },
    .of "internetNetworkEgressCost" .required .real fun x n => { n with internet := x }] }

def toJson (n : NetworkRates) : Json.Value :=
  .object [("zoneNetworkEgressCost", .real n.zone), ("regionNetworkEgressCost", .real n.region),
    ("internetNetworkEgressCost", .real n.internet)]

end NetworkRates

structure BalancerRates where
  /-- For each of the first five forwarding rules. -/
  firstRules : Float
  /-- For each further rule. -/
  additionalRule : Float
  /-- For each gigabyte that comes in. -/
  ingress : Float

namespace BalancerRates

/-- The number of rules charged at the first rate. -/
def firstTier : Nat := 5

/-- The rates that a card charges for load balancers. -/
def ofCard (c : RateCard) : Except PricingError BalancerRates := do
  pure ⟨← c.rate .firstFiveRules, ← c.rate .additionalRule, ← c.rate .ingressData⟩

/-- The cost of a load balancer with so many rules and gigabytes. -/
def cost (r : BalancerRates) (rules : Nat) (gigabytes : Float) : Float :=
  r.firstRules * (min rules firstTier).toFloat + r.additionalRule * (rules - firstTier).toFloat +
    r.ingress * gigabytes

end BalancerRates

/-- The cost of a load balancer for an hour. -/
structure BalancerCost where
  cost : Float

namespace BalancerCost

/-- What a card charges for a load balancer, taken to have one rule and no traffic. -/
def ofCard (c : RateCard) : Except PricingError BalancerCost := do
  pure ⟨(← BalancerRates.ofCard c).cost 1 0⟩

def reader : Json.Reader BalancerCost := Json.Record.read {
  name := "struct LoadBalancer"
  blank := ⟨0⟩
  slots := [.of "cost" .required .real fun x _ => ⟨x⟩] }

def toJson (b : BalancerCost) : Json.Value := .object [("cost", .real b.cost)]

end BalancerCost

/-- The discount that a default and a negotiated one come to together. -/
def combinedDiscount (default negotiated : Float) : Float :=
  1.0 - (1.0 - default) * (1.0 - negotiated)

end ClusterCost
