import Fleet.Decimal.Layout
import Fleet.Telemetry.Aggregator

/-!
# Writing metrics

The fleet publishes its own metrics in the format that it reads from inference servers: a family
has a help line, a type line and one line for each sample.
-/

namespace Fleet.Telemetry

/-- The gauges of the controller itself. -/
structure FleetGauges where
  target : Nat := 0
  running : Nat := 0
  pending : Nat := 0
  load : Binary64 := 0

/-- A label value as it stands between quotes: backslashes, quotes and line feeds are escaped. -/
def escapeLabel (value : String) : String :=
  String.ofList <| value.toList.flatMap fun character =>
    match character with
    | '\\' => ['\\', '\\']
    | '"' => ['\\', '"']
    | '\n' => ['\\', 'n']
    | _ => [character]

/-- A metric name in which every character outside of letters, digits and underscores is replaced
by an underscore. -/
def metricName (name : String) : String :=
  String.ofList <| name.toList.map fun character =>
    if Text.isAlphanumeric character || character == '_' then character else '_'

/-- A sample as it is rendered: the value is already a text. -/
structure RenderedSample where
  name : String
  labels : List Label
  value : String

/-- The line of a sample. -/
def RenderedSample.line (sample : RenderedSample) : String :=
  let label (pair : Label) : String := pair.1 ++ "=\"" ++ escapeLabel pair.2 ++ "\""
  let block :=
    if sample.labels.isEmpty then ""
    else "\x7b" ++ String.intercalate "," (sample.labels.map label) ++ "\x7d"
  sample.name ++ block ++ " " ++ sample.value ++ "\n"

/-- A family of samples: its name, its help text and its samples. -/
structure Family where
  name : String
  help : String
  samples : List RenderedSample

/-- The lines of a family. -/
def Family.text (family : Family) : String :=
  "# HELP " ++ family.name ++ " " ++ family.help ++ "\n" ++
    "# TYPE " ++ family.name ++ " gauge\n" ++
    String.join (family.samples.map RenderedSample.line)

/-- A value with a fixed number of digits after the point. -/
def fixedValue (places : Nat) (value : Binary64) : String :=
  String.ofList (Decimal.fixedText places value)

/-- A family of one sample without labels. -/
def gauge (name help value : String) : Family :=
  ⟨name, help, [⟨name, [], value⟩]⟩

/-- The families of the controller's own gauges. -/
def FleetGauges.families (gauges : FleetGauges) : List Family :=
  [gauge "tarn_target_replicas" "Desired replica count." (Nat.repr gauges.target),
    gauge "tarn_running_replicas" "Replicas in the running set." (Nat.repr gauges.running),
    gauge "tarn_pending_allocations" "Allocation requests not yet granted."
      (Nat.repr gauges.pending),
    gauge "tarn_aggregate_load" "Mean replica load (0.0-1.0)." (fixedValue 4 gauges.load)]

/-- The labels that name a replica. -/
def ReplicaLoad.labels (load : ReplicaLoad) : List Label :=
  [("replica_id", load.replica), ("host", load.host)]

/-- The family of replica loads. -/
def replicaFamily (replicas : List ReplicaLoad) : Family where
  name := "tarn_replica_load"
  help := "Per-replica load (0.0-1.0)."
  samples := replicas.map fun load =>
    ⟨"tarn_replica_load", load.labels, fixedValue 4 load.load⟩

/-- The accelerator metrics that any replica reports, each once and ascending. -/
def acceleratorMetrics (replicas : List ReplicaLoad) : List String :=
  SortedMap.keys <| SortedMap.ofList <| replicas.flatMap fun load =>
    load.accelerators.values.flatMap fun readings => readings.keys.map fun metric => (metric, ())

/-- The family of one accelerator metric. -/
def acceleratorFamily (replicas : List ReplicaLoad) (metric : String) : Family :=
  let name := "tarn_gpu_" ++ metricName metric
  { name := name
    help := "GPU metric reported by the replica."
    samples := replicas.flatMap fun load =>
      load.accelerators.entries.filterMap fun (accelerator, readings) =>
        (readings.get? metric).map fun value =>
          ⟨name, load.labels ++ [("gpu", accelerator)], String.ofList (Decimal.plain.write value)⟩ }

/-- The families of the models. -/
def modelFamilies (models : List ModelReport) : List Family :=
  let quantiles (report : ModelReport) : List RenderedSample :=
    [("0.5", report.latency.p50), ("0.95", report.latency.p95), ("0.99", report.latency.p99)].map
      fun (quantile, value) =>
        ⟨"tarn_model_latency_ms", [("model", report.model), ("quantile", quantile)],
          fixedValue 2 value⟩
  [{ name := "tarn_model_error_rate"
     help := "Model error rate (0.0-1.0)."
     samples := models.map fun report =>
       ⟨"tarn_model_error_rate", [("model", report.model)], fixedValue 4 report.errorRate⟩ },
    { name := "tarn_model_latency_ms"
      help := "Model inference latency percentiles in milliseconds."
      samples := models.flatMap quantiles }]

/-- All families, in the order in which they are written. -/
def families (gauges : FleetGauges) (replicas : List ReplicaLoad) (models : List ModelReport) :
    List Family :=
  gauges.families ++ [replicaFamily replicas] ++
    (acceleratorMetrics replicas).map (acceleratorFamily replicas) ++ modelFamilies models

/-- The text of all metrics. -/
def renderExposition (gauges : FleetGauges) (replicas : List ReplicaLoad)
    (models : List ModelReport) : String :=
  String.join ((families gauges replicas models).map Family.text)

end Fleet.Telemetry
