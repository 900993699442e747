import ClusterCost.Main
import ClusterCost.Rates.Concurrent
import ClusterCost.Proofs.Files
import ClusterCost.Proofs.Rates.Store
import ClusterCost.Proofs.Json.Ending
import ClusterCost.Proofs.Service.Transaction
import ClusterCost.Proofs.Text.Utf8
import ClusterCost.Proofs.Json.Grammar
import ClusterCost.Proofs.Json.Scan
import ClusterCost.Proofs.Json.Writing
import ClusterCost.Proofs.Rates.Card
import ClusterCost.Proofs.Rates.Persistence
import ClusterCost.Proofs.Rates.Concurrency
import ClusterCost.Proofs.Cluster.Run
import ClusterCost.Proofs.Cluster.Integrity
import ClusterCost.Proofs.Cluster.Timing
import ClusterCost.Proofs.Cluster.Schedule
import ClusterCost.Proofs.Cluster.Stopping
import ClusterCost.Proofs.Cluster.Pending
import ClusterCost.Proofs.Health
import ClusterCost.Proofs.Service.Passage
import ClusterCost.Proofs.Service.Course
import ClusterCost.Proofs.Service.Availability
import ClusterCost.Proofs.Rates.Import
import ClusterCost.Proofs.Service.Import
import ClusterCost.Proofs.Http.Route
import ClusterCost.Proofs.Service.Requests
import ClusterCost.Proofs.Service.Wiring
import ClusterCost.Proofs.Service.Answers
import ClusterCost.Proofs.Cluster.Assembly
import ClusterCost.Proofs.Service.Loading
import ClusterCost.Proofs.Decimal.Numeral
import ClusterCost.Proofs.Rates.Nodes
import ClusterCost.Proofs.Rates.Validity
import ClusterCost.Proofs.Rates.Bodies
import ClusterCost.Proofs.Rates.Maps
import ClusterCost.Proofs.Query.Answers
import ClusterCost.Proofs.Query.Retry
import ClusterCost.Proofs.Cluster.NameId
import ClusterCost.Proofs.Url.Form
import ClusterCost.Proofs.Url.Path
import ClusterCost.Proofs.Query.Endpoint
import ClusterCost.Proofs.Json.Changes
import ClusterCost.Proofs.Query.Rearranging
import ClusterCost.Proofs.Service.Probes
import ClusterCost.Proofs.Rates.Loading
import ClusterCost.Proofs.Settings.Keys
import ClusterCost.Proofs.Settings.Sources
import ClusterCost.Proofs.Settings.Loading
import ClusterCost.Proofs.Settings.Variables
import ClusterCost.Proofs.Text.UpperCase
import ClusterCost.Proofs.Json.Integers
import ClusterCost.Proofs.Rates.Naming
import ClusterCost.Proofs.Json.RoundTrip
import ClusterCost.Proofs.Shapes
import ClusterCost.Proofs.Service.Lookup
