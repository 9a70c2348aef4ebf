import Fleet.Controller.Work

/-!
# The controller

The controller keeps a set of replicas at a target size. It alone owns the set, the target and the
outstanding requests; everything else reaches it as an event, as a result of background work, or as
the passing of time.
-/

namespace Fleet

open Telemetry

/-- A set of names. -/
abbrev NameSet := SortedMap Unit

/-- The state of the controller. -/
structure Controller where
  settings : ControllerSettings
  decider : ScalingDecider
  target : Nat
  /-- The launched replicas, oldest first. -/
  running : List Replica := []
  /-- The granted containers whose launch is in flight. -/
  launching : SortedMap Replica := ∅
  /-- The outstanding requests with the times of their issue, oldest first. -/
  pending : List (Nat × Instant) := []
  /-- The containers that completed while their launch was in flight. -/
  tombstones : NameSet := ∅
  /-- The containers whose release failed; it is tried again in each round. -/
  unreleased : NameSet := ∅
  nextRequest : Nat := 0
  available : Capability := {}
  load : Binary64 := 0
  aggregator : Aggregator := {}
  background : Background
  published : Status := {}
  shutdownRequested : Bool := false
  /-- Whether a retry of a request found no delay that could follow, which nothing mends. -/
  isBroken : Bool := false

namespace Controller

/-- The controller before its start. -/
def ofSettings (settings : ControllerSettings) : Controller where
  settings := settings
  decider := { policy := settings.policy }
  target := settings.policy.minimum
  background := { breakers := { settings := settings.breaker } }

/-- The number of running replicas that were not asked to stop. -/
def activeCount (controller : Controller) : Nat :=
  (controller.running.filter Replica.isActive).length

/-- Whether some replica was asked to stop and has not completed. -/
def anyStopping (controller : Controller) : Bool :=
  controller.running.any Replica.isStopping

/-- The replicas that run, are being launched, or are requested. -/
def committed (controller : Controller) : Nat :=
  controller.activeCount + controller.launching.entries.length + controller.pending.length

/-- Whether a container is running or being launched. -/
def isKnown (controller : Controller) (replica : String) : Bool :=
  controller.launching.contains replica || controller.running.any (·.id = replica)

/-- The view of the controller as it is now. -/
def status (controller : Controller) : Status where
  target := controller.target
  running := controller.running
  pending := controller.pending.length
  launching := controller.launching.entries.length
  load := controller.load
  available := controller.available
  breakers := controller.background.breakers.snapshots

/-- The controller after it published its view. -/
def publish (controller : Controller) : Controller :=
  { controller with published := controller.status }

/-- What readers can see. -/
def handle (controller : Controller) : Handle where
  status := controller.published
  aggregator := controller.aggregator

/-- The controller after an alert. -/
def alert (controller : Controller) (alert : Alert) : Controller :=
  { controller with aggregator := controller.aggregator.recordAlert alert }

/-- The controller with work started in the background. -/
def start (controller : Controller) (work : Work) : Controller :=
  { controller with background := controller.background.start work }

/-- The replicas with the first chosen one changed. -/
def changeFirst (chosen : Replica → Bool) (change : Replica → Replica) :
    List Replica → List Replica
  | [] => []
  | replica :: rest =>
      if chosen replica then change replica :: rest
      else replica :: changeFirst chosen change rest

/-- The controller with the first chosen one of its running replicas changed. -/
def changeReplica (controller : Controller) (chosen : Replica → Bool)
    (change : Replica → Replica) : Controller :=
  { controller with running := changeFirst chosen change controller.running }

end Controller

end Fleet
