import Fleet.Alert
import Fleet.Telemetry.Counters
import Fleet.Telemetry.Latency

/-!
# Aggregated telemetry

The aggregator keeps what was last observed of each replica, the request counts and latencies of
each model over all replicas, and the recent alerts.
-/

namespace Fleet.Telemetry

/-- What is known of the requests for one model. -/
structure ModelActivity where
  requests : UInt64 := 0
  errors : UInt64 := 0
  latencies : LatencyWindow := .empty

namespace ModelActivity

instance : Inhabited ModelActivity := ⟨{}⟩

/-- The share of failed requests; zero before any request. -/
def errorRate (activity : ModelActivity) : Binary64 :=
  if activity.requests = 0 then 0
  else Binary64.ofNat activity.errors.toNat / Binary64.ofNat activity.requests.toNat

/-- The activity after the growth of a server's counters. -/
def absorb (activity : ModelActivity) (growth : ModelCounters) : ModelActivity where
  requests := activity.requests + growth.requests
  errors := activity.errors + growth.failure
  latencies :=
    if growth.inferences = 0 then activity.latencies
    else activity.latencies.push growth.meanLatency

end ModelActivity

/-- The published description of one model. -/
structure ModelReport where
  model : String
  latency : Percentiles
  errorRate : Binary64
  requests : UInt64
  errors : UInt64
  deriving DecidableEq

/-- The last observation of one replica. -/
structure ReplicaRecord where
  host : String := ""
  load : Binary64 := 0
  queueDepth : UInt64 := 0
  accelerators : AcceleratorReadings := ∅
  startedAt : Option Nat := none
  readyAt : Option Nat := none
  counters : SortedMap ModelCounters := ∅

instance : Inhabited ReplicaRecord := ⟨{}⟩

/-- The published description of one replica. -/
structure ReplicaLoad where
  replica : String
  host : String
  load : Binary64
  queueDepth : UInt64
  accelerators : AcceleratorReadings
  deriving DecidableEq

/-- The observations of all replicas and models, and the recent alerts. -/
structure Aggregator where
  models : SortedMap ModelActivity := ∅
  replicas : SortedMap ReplicaRecord := ∅
  alerts : AlertLog := .empty

namespace Aggregator

instance : Inhabited Aggregator := ⟨{}⟩

/-- The aggregator with the record of one replica changed. -/
def updateReplica (aggregator : Aggregator) (replica : String)
    (change : ReplicaRecord → ReplicaRecord) : Aggregator :=
  { aggregator with replicas := aggregator.replicas.update replica {} change }

/-- The aggregator with the activity of one model changed. -/
def updateModel (aggregator : Aggregator) (model : String)
    (change : ModelActivity → ModelActivity) : Aggregator :=
  { aggregator with models := aggregator.models.update model {} change }

/-- The growth of each model's counters since a replica's last report. Models without requests and
inferences in between are left out. -/
def growthSince (before now : SortedMap ModelCounters) : List (String × ModelCounters) :=
  (now.entries.map fun (model, counters) =>
      (model, counters.since ((before.get? model).getD {}))).filter
    fun (_, growth) => !(growth.requests = 0 && growth.inferences = 0)

/-- The aggregator after a replica reported its metrics, and the load of the replica. -/
def ingest (aggregator : Aggregator) (replica host text : String) : Aggregator × Binary64 :=
  let samples := readExposition text
  let load := loadOfSamples samples
  let counters := countersOfSamples samples
  let before := ((aggregator.replicas.get? replica).getD {}).counters
  let recorded := aggregator.updateReplica replica fun record =>
    { record with
      host := host
      load := load
      queueDepth := queueDepthOfSamples samples
      accelerators := acceleratorReadings samples
      counters := counters }
  let counted := (growthSince before counters).foldl
    (fun aggregator (model, growth) => aggregator.updateModel model (·.absorb growth))
    recorded
  (counted, load)

/-- The aggregator after a replica gave no metrics. -/
def recordUnavailable (aggregator : Aggregator) (replica host : String) : Aggregator :=
  aggregator.updateReplica replica fun record => { record with host := host, load := 0 }

/-- The aggregator without a departed replica. -/
def forget (aggregator : Aggregator) (replica : String) : Aggregator :=
  { aggregator with replicas := aggregator.replicas.erase replica }

/-- The aggregator after a replica was started at a time in milliseconds. -/
def recordStart (aggregator : Aggregator) (replica : String) (time : Nat) : Aggregator :=
  aggregator.updateReplica replica fun record => { record with startedAt := some time }

/-- The aggregator after a replica became ready at a time in milliseconds. -/
def recordReady (aggregator : Aggregator) (replica : String) (time : Nat) : Aggregator :=
  aggregator.updateReplica replica fun record => { record with readyAt := some time }

/-- The milliseconds from the start of a replica until it was ready, once both are known. -/
def startupLatency? (aggregator : Aggregator) (replica : String) : Option Nat := do
  let record ← aggregator.replicas.get? replica
  let readyAt ← record.readyAt
  let startedAt ← record.startedAt
  return readyAt - startedAt

/-- The description of each replica, in the order of their names. -/
def replicaLoads (aggregator : Aggregator) : List ReplicaLoad :=
  aggregator.replicas.entries.map fun (replica, record) =>
    { replica := replica
      host := record.host
      load := record.load
      queueDepth := record.queueDepth
      accelerators := record.accelerators }

/-- The requests that wait at a replica. -/
def queueDepth (aggregator : Aggregator) (replica : String) : UInt64 :=
  ((aggregator.replicas.get? replica).map ReplicaRecord.queueDepth).getD 0

/-- The requests that wait at all replicas. -/
def totalQueueDepth (aggregator : Aggregator) : UInt64 :=
  (aggregator.replicas.values.map ReplicaRecord.queueDepth).foldl (· + ·) 0

/-- The aggregator after one latency of a model was observed. -/
def recordLatency (aggregator : Aggregator) (model : String) (latency : Binary64) : Aggregator :=
  aggregator.updateModel model fun activity =>
    { activity with latencies := activity.latencies.push latency }

/-- The aggregator after one request for a model. -/
def recordRequest (aggregator : Aggregator) (model : String) (success : Bool) : Aggregator :=
  aggregator.updateModel model fun activity =>
    { activity with
      requests := activity.requests + 1
      errors := if success then activity.errors else activity.errors + 1 }

/-- The latency percentiles of a model; zero for an unknown one. -/
def percentiles (aggregator : Aggregator) (model : String) : Percentiles :=
  LatencyWindow.percentiles
    (((aggregator.models.get? model).map ModelActivity.latencies).getD .empty)

/-- The error rate of a model; zero for an unknown one. -/
def errorRate (aggregator : Aggregator) (model : String) : Binary64 :=
  ((aggregator.models.get? model).map ModelActivity.errorRate).getD 0

/-- The error rate of each model. -/
def errorRates (aggregator : Aggregator) : SortedMap Binary64 :=
  aggregator.models.mapValues fun _ activity => activity.errorRate

/-- The report of a model from its activity. -/
def reportOf (model : String) (activity : ModelActivity) : ModelReport where
  model := model
  latency := activity.latencies.percentiles
  errorRate := activity.errorRate
  requests := activity.requests
  errors := activity.errors

/-- The report of a model, if any was observed under its name. -/
def modelReport? (aggregator : Aggregator) (model : String) : Option ModelReport :=
  (aggregator.models.get? model).map (reportOf model)

/-- The reports of all models, in the order of their names. -/
def modelReports (aggregator : Aggregator) : List ModelReport :=
  aggregator.models.entries.map fun (model, activity) => reportOf model activity

/-- The aggregator after an alert. -/
def recordAlert (aggregator : Aggregator) (alert : Alert) : Aggregator :=
  { aggregator with alerts := aggregator.alerts.push alert }

end Aggregator

end Fleet.Telemetry
