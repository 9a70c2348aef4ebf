import Fleet.SortedMap
import Fleet.Telemetry.Exposition

/-!
# Load

The load of a replica is a number between zero and one: the mean utilization of its accelerators
where the server reports any, a fixed value where the server only counts requests, and zero
otherwise. The load of the fleet is the mean over its replicas.
-/

namespace Fleet.Telemetry

/-- The accelerator that a sample describes. -/
def Sample.accelerator? (sample : Sample) : Option String :=
  (sample.label? "gpu").or (sample.label? "gpu_uuid")

/-- Whether a sample is a usable utilization reading: finite, and labelled with its accelerator. -/
def Sample.isUtilization (sample : Sample) : Bool :=
  sample.name == "nv_gpu_utilization" && sample.accelerator?.isSome && sample.value.isFinite

/-- Whether a sample counts successful requests. -/
def Sample.countsSuccesses (sample : Sample) : Bool :=
  sample.name == "nv_inference_request_success"

/-- The load assumed for a server that counts requests and reports no utilization. -/
def servingLoad : Binary64 := Binary64.ofDecimal false 3 (-1)

/-- The sum of values, added from left to right to a first value. -/
def sumFrom (start : Binary64) (values : List Binary64) : Binary64 :=
  values.foldl (· + ·) start

/-- The load of a replica with the given samples. -/
def loadOfSamples (samples : List Sample) : Binary64 :=
  let readings := (samples.filter Sample.isUtilization).map Sample.value
  let load :=
    if !readings.isEmpty then sumFrom 0 readings / Binary64.ofNat readings.length / 100
    else if samples.any Sample.countsSuccesses then servingLoad
    else 0
  load.clamp 0 1

/-- The load of a replica with the given metrics text. -/
def loadOfText (text : String) : Binary64 :=
  loadOfSamples (readExposition text)

/-- The mean load of the replicas; zero where there are none. A sum of negative zeros is one. -/
def meanLoad (loads : List Binary64) : Binary64 :=
  if loads.isEmpty then 0
  else sumFrom (Binary64.zero true) loads / Binary64.ofNat loads.length

/-- The readings of accelerators: accelerator, then metric, then value. -/
abbrev AcceleratorReadings := SortedMap (SortedMap Binary64)

/-- The accelerator metric that a sample reports, named without its family. -/
def Sample.acceleratorMetric? (sample : Sample) : Option String :=
  (Text.dropHead? "nv_gpu_".toList sample.name.toList).map String.ofList

/-- The readings of each accelerator; the last sample of a metric counts. -/
def acceleratorReadings (samples : List Sample) : AcceleratorReadings :=
  samples.foldl
    (fun readings sample =>
      match sample.acceleratorMetric?, sample.accelerator? with
      | some metric, some accelerator =>
          readings.update accelerator ∅ (·.insert metric sample.value)
      | _, _ => readings)
    ∅

end Fleet.Telemetry
