import Fleet.Telemetry.Load

/-!
# Request counters

An inference server reports cumulative counters for each version of each model. The counters of
the versions of one model are added up, and two reports of a server are compared to find the
requests between them. Counters are words of 64 bits.
-/

namespace Fleet.Telemetry

/-- The cumulative counters of one model. -/
structure ModelCounters where
  success : UInt64 := 0
  failure : UInt64 := 0
  inferences : UInt64 := 0
  microseconds : UInt64 := 0
  deriving DecidableEq, Inhabited

/-- The counters that a sample can report. -/
inductive CounterKind where
  | success
  | failure
  | inferences
  | microseconds
  deriving DecidableEq

/-- The counter that a sample reports by its name. -/
def Sample.counterKind? (sample : Sample) : Option CounterKind :=
  match sample.name with
  | "nv_inference_request_success" => some .success
  | "nv_inference_request_failure" => some .failure
  | "nv_inference_count" => some .inferences
  | "nv_inference_request_duration_us" => some .microseconds
  | _ => none

namespace ModelCounters

/-- The counters with an amount added to one of them. -/
def increase (counters : ModelCounters) (kind : CounterKind) (amount : UInt64) : ModelCounters :=
  match kind with
  | .success => { counters with success := counters.success + amount }
  | .failure => { counters with failure := counters.failure + amount }
  | .inferences => { counters with inferences := counters.inferences + amount }
  | .microseconds => { counters with microseconds := counters.microseconds + amount }

/-- The growth of one counter; a counter that went backwards started again from zero. -/
def growth (before now : UInt64) : UInt64 :=
  if before ≤ now then now - before else now

/-- The growth of each counter. -/
def since (now before : ModelCounters) : ModelCounters where
  success := growth before.success now.success
  failure := growth before.failure now.failure
  inferences := growth before.inferences now.inferences
  microseconds := growth before.microseconds now.microseconds

/-- All requests, successful or not. -/
def requests (counters : ModelCounters) : UInt64 :=
  counters.success + counters.failure

/-- The mean latency in milliseconds over the inferences. -/
def meanLatency (counters : ModelCounters) : Binary64 :=
  Binary64.ofNat counters.microseconds.toNat / Binary64.ofNat counters.inferences.toNat / 1000

end ModelCounters

/-- The model, counter and amount that a sample reports; the amount is a finite number that is not
negative, without its fraction. -/
def Sample.count? (sample : Sample) : Option (String × CounterKind × UInt64) :=
  match sample.label? "model", sample.counterKind? with
  | some model, some kind =>
      if !sample.value.isFinite || sample.value.lt 0 then none
      else some (model, kind, sample.value.toWord)
  | _, _ => none

/-- The counters of each model in one report. -/
def countersOfSamples (samples : List Sample) : SortedMap ModelCounters :=
  (samples.filterMap Sample.count?).foldl
    (fun counters (model, kind, amount) =>
      counters.update model {} (·.increase kind amount))
    ∅

/-- The requests that wait at a server: the sum over its queues, where a negative number counts as
zero. -/
def queueDepthOfSamples (samples : List Sample) : UInt64 :=
  let waiting := samples.filter fun sample =>
    sample.name == "nv_inference_pending_request_count" && sample.value.isFinite
  (waiting.map fun sample => (sample.value.max 0).toWord).foldl (· + ·) 0

end Fleet.Telemetry
