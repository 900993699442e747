import ClusterCost.Decimal.Layout
import ClusterCost.Metrics.Basic

/-!
# Text exposition of metrics

Each family of metrics is written with a line of help, a line for its type and a line for each
sample. Families stand in the order of their names and the samples of a family in the order of their
labels; a family without samples is left out.
-/

namespace ClusterCost

namespace Exposition

/-- A sample: what is added to the family's name, the label if there is one, and the value. -/
structure Sample where
  suffix : String := ""
  label : Option (String × String) := none
  value : Float

structure Family where
  name : String
  help : String
  kind : String
  samples : List Sample

/-- A label's value with backslashes, line breaks and quotes escaped. -/
def escapeLabel (s : String) : String :=
  String.join (s.toList.map fun c =>
    if c == '\\' then "\\\\"
    else if c == '\n' then "\\n" else if c == '"' then "\\\"" else c.toString)

def Sample.write (family : String) (s : Sample) : String :=
  let label := match s.label with
    | some (name, value) => "\x7b" ++ name ++ "=\"" ++ escapeLabel value ++ "\"\x7d"
    | none => ""
  family ++ s.suffix ++ label ++ " " ++ Layout.plain.write s.value ++ "\n"

def Family.write (f : Family) : String :=
  if f.samples.isEmpty then ""
  else
    "# HELP " ++ f.name ++ " " ++ f.help ++ "\n# TYPE " ++ f.name ++ " " ++ f.kind ++ "\n" ++
      String.join (f.samples.map (Sample.write f.name))

def ofCount (n : Nat) : Sample := { value := n.toFloat }

def ofInteger (n : Int) : Sample :=
  { value := if n < 0 then -n.natAbs.toFloat else n.natAbs.toFloat }

def ofCounters (c : Counters) : List Sample :=
  c.toSortedList.map fun (outcome, n) => { label := some ("outcome", outcome), value := n.toFloat }

/-- The samples of a histogram: a running count for each bound, the count of all, the
sum and the count again. -/
def ofHistogram (h : Histogram) : List Sample :=
  let bucket (bound : String) (n : Nat) : Sample :=
    { suffix := "_bucket", label := some ("le", bound), value := n.toFloat }
  let running :=
    ((h.buckets.foldl (fun (done, seen) n => ((seen + n) :: done, seen + n)) ([], 0)).1).reverse
  (latencyBounds.zip running).map (fun (bound, n) => bucket (Layout.plain.write bound) n) ++
    [bucket "+Inf" h.count, { suffix := "_sum", value := h.sum },
     { suffix := "_count", value := h.count.toFloat }]

end Exposition

namespace Metrics

open Exposition in
def families (m : Metrics) : List Family :=
  [⟨"cost_model_cluster_info_rows_skipped_total",
      "Cluster info rows skipped because id or name was missing", "counter",
      [ofCount m.rowsSkipped]⟩,
    ⟨"cost_model_cluster_map_clusters",
      "Number of clusters in the current cluster map snapshot", "gauge", [ofInteger m.clusters]⟩,
    ⟨"cost_model_cluster_map_refresh_latency_seconds",
      "Time spent loading cluster info, including retries", "histogram", ofHistogram m.latency⟩,
    ⟨"cost_model_cluster_map_refreshes_total",
      "Cluster map refresh attempts by outcome", "counter", ofCounters m.refreshes⟩,
    ⟨"cost_model_pricing_config_updates_total",
      "Pricing configuration updates by outcome", "counter", ofCounters m.updates⟩,
    ⟨"cost_model_pricing_rebuilds_total",
      "Number of node rate table rebuilds", "counter", [ofCount m.rebuilds]⟩]

def exposition (m : Metrics) : String := String.join (m.families.map Exposition.Family.write)

end Metrics

end ClusterCost
