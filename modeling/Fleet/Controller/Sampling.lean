import Fleet.Controller.Basic
import Fleet.Telemetry.Load

/-!
# Samples of the running set

In each round the controller probes every replica that is not being stopped. A replica that was
not ready is asked whether it is; its metrics are read through a breaker of its own. A replica
without metrics counts as idle.
-/

namespace Fleet.Controller

open Telemetry

variable {World : Type}

/-- What the probes of one replica gave. -/
structure Sample where
  replica : String
  host : String
  ready : Bool
  /-- The metrics, unless the probe failed or the breaker refused it. -/
  metrics : Option String
  deriving DecidableEq

/-- Probes one replica. A replica that is ready is not asked again. -/
def probe (surroundings : Surroundings World) (replica : Replica) (breakers : BreakerRegistry)
    (world : World) : Sample × BreakerRegistry × World :=
  let (ready, world) : Bool × World :=
    if replica.isReady then (true, world)
    else
      let (answer, world) := surroundings.ready replica world
      (answer.getD false, world)
  let read (world : World) : Except Unit String × World :=
    let (metrics, world) := surroundings.metrics replica world
    (match metrics with | some text => .ok text | none => .error (), world)
  let (metrics, breaker, world) := (breakers.breaker replica.id).call surroundings.clock read world
  (⟨replica.id, replica.host, ready, metrics.toOption⟩, breakers.put replica.id breaker, world)

/-- The controller with a running replica marked ready. One that is ready or being stopped stays
as it is. -/
def markReady (controller : Controller) (id : String) (now : Nat) : Controller :=
  match controller.running.find? (·.id = id) with
  | none => controller
  | some replica =>
      if replica.isReady || replica.isStopping then controller
      else
        { controller.changeReplica (·.id = id)
            ({ · with phase := .ready, readyAt := some now }) with
          aggregator := controller.aggregator.recordReady id now }

/-- The controller after one sample, and the load of the replica. -/
def recordSample (controller : Controller) (now : Nat) (sample : Sample) :
    Controller × Binary64 :=
  let controller := if sample.ready then controller.markReady sample.replica now else controller
  match sample.metrics with
  | some text =>
      let (aggregator, load) := controller.aggregator.ingest sample.replica sample.host text
      ({ controller with aggregator }, load)
  | none =>
      ({ controller with
          aggregator := controller.aggregator.recordUnavailable sample.replica sample.host }, 0)

/-- Probes replicas one after the other and records each sample when it is there. The answer holds
the loads in that order. -/
def sampleInTurn (surroundings : Surroundings World) :
    List Replica → Controller → World → List Binary64 × Controller × World
  | [], controller, world => ([], controller, world)
  | replica :: rest, controller, world =>
      let background := controller.background
      let (sample, breakers, world) := probe surroundings replica background.breakers world
      let probed := { controller with background := { background with breakers } }
      let (controller, load) := probed.recordSample (surroundings.epoch world) sample
      let (loads, controller, world) := sampleInTurn surroundings rest controller world
      (load :: loads, controller, world)

/-- Samples the running set. The answer holds one load for each replica that is not being
stopped. -/
def sampleReplicas (surroundings : Surroundings World) (controller : Controller) (world : World) :
    List Binary64 × Controller × World :=
  sampleInTurn surroundings (controller.running.filter Replica.isActive) controller world

end Fleet.Controller
