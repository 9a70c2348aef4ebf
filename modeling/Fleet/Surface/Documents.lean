import Fleet.Calendar
import Fleet.Controller.Status
import Fleet.Json.Value

/-!
# Documents of the status surface

Each answer says whether it is a success, and holds either data or the text of an error.
-/

namespace Fleet.Surface

open Telemetry

/-- The document of an answer with data. -/
def success (data : Json.Value) : Json.Value :=
  .record [("success", .boolean true), ("data", data)]

/-- The document of an answer with an error. -/
def failure (reason : String) : Json.Value :=
  .record [("success", .boolean false), ("error", .text reason)]

/-- The document of a breaker. -/
def breakerDocument (snapshot : Breaker.Snapshot) : Json.Value :=
  .record [("name", .text snapshot.name), ("state", .text snapshot.state.name),
    ("consecutive_failures", .whole snapshot.failures)]

/-- The document of what readers see of the controller. -/
def statusDocument (handle : Handle) : Json.Value :=
  let status := handle.status
  .record [("target", .whole status.target), ("running", .whole status.running.length),
    ("ready", .whole status.readyCount), ("launching", .whole status.launching),
    ("pending_allocations", .whole status.pending), ("aggregate_load", .real status.load),
    ("progress", .real status.progress),
    ("queue_depth", .whole handle.aggregator.totalQueueDepth.toNat),
    ("available", status.available.document),
    ("breakers", .list (status.breakers.map breakerDocument))]

/-- The document of a replica with what was last observed of it. -/
def replicaDocument (aggregator : Aggregator) (replica : Replica) : Json.Value :=
  let record := (aggregator.replicas.get? replica.id).getD {}
  .record [("id", .text replica.id), ("node_id", .text replica.node), ("host", .text replica.host),
    ("phase", .text replica.phase.name), ("resources", replica.resources.document),
    ("launched_at", .whole replica.launchedAt),
    ("ready_at", Json.optional .whole replica.readyAt),
    ("startup_latency_ms", Json.optional .whole replica.startupLatency?),
    ("load", .real record.load), ("queue_depth", .whole record.queueDepth.toNat)]

/-- The document of an alert. -/
def alertDocument (alert : Alert) : Json.Value :=
  .record [("kind", .text alert.kind), ("message", .text alert.message),
    ("severity", .text alert.severity.name), ("timestamp", .text (Calendar.describe alert.time))]

/-- The document of a model. -/
def modelDocument (report : ModelReport) : Json.Value :=
  .record [("model", .text report.model),
    ("latency_percentiles", .record [("p50", .real report.latency.p50),
      ("p95", .real report.latency.p95), ("p99", .real report.latency.p99)]),
    ("error_rate", .real report.errorRate), ("request_count", .whole report.requests.toNat),
    ("error_count", .whole report.errors.toNat)]

end Fleet.Surface
