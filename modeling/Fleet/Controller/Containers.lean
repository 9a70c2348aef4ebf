import Fleet.Controller.Requests

/-!
# The life of containers

A granted container is launched if the target asks for it and given back otherwise. A launched
replica stays in the running set until its completion is reported, also while it is being stopped.
-/

namespace Fleet.Controller

open Telemetry

variable {World : Type}

/-- The controller after a grant. A container that is known already is ignored; any other one
answers the oldest request, and is given back if the target is met without it. -/
def onAllocated (controller : Controller) (allocation : Allocation) : Controller :=
  if controller.isKnown allocation.replica then controller
  else
    let granted := { controller with pending := controller.pending.drop 1 }
    if granted.target ≤ granted.activeCount + granted.launching.entries.length then
      granted.start (.release allocation.replica)
    else
      let replica := allocation.toReplica
      { granted with launching := granted.launching.insert replica.id replica }.start
        (.launch replica)

/-- The controller without a replica that completed. -/
def dropReplica (controller : Controller) (id : String) : Controller :=
  { controller with
    running := controller.running.eraseP (·.id = id)
    background := controller.background.dropBreaker id
    aggregator := controller.aggregator.forget id }

/-- The controller after a completion. While the launch is in flight the completion is remembered;
a replica that was not being stopped is replaced at once. -/
def onCompleted (surroundings : Surroundings World) (controller : Controller)
    (completion : Completion) (world : World) : Controller × World :=
  let id := completion.replica
  if controller.launching.contains id then
    ({ controller with tombstones := controller.tombstones.insert id () }, world)
  else
    match controller.running.find? (·.id = id) with
    | none => (controller, world)
    | some replica =>
        let dropped := controller.dropReplica id
        if replica.isStopping then (dropped, world)
        else
          let alert := Alert.containerFailure id completion.reason (surroundings.epoch world)
          (dropped.alert alert).requestMissing surroundings world

/-- The controller with a launched replica in its running set. -/
def adopt (controller : Controller) (replica : Replica) (now : Nat) : Controller :=
  { controller with
    aggregator := controller.aggregator.recordStart replica.id now
    running := controller.running ++ [{ replica with phase := .launching, launchedAt := now }] }

/-- The controller after the result of a launch. A container that completed meanwhile is discarded
without a new view; one that was not launched is given back. -/
def onLaunched (controller : Controller) (replica : Replica) (result : Except ClusterError Unit)
    (now : Nat) : Controller :=
  let landed := { controller with launching := controller.launching.erase replica.id }
  if landed.tombstones.contains replica.id then
    { landed with tombstones := landed.tombstones.erase replica.id }
  else
    match result with
    | .ok () => (landed.adopt replica now).publish
    | .error failure =>
        ((landed.alert
            (.containerFailure replica.id ("launch failed: " ++ failure.message) now)).start
          (.release replica.id)).publish

/-- The controller after the result of a stop. A replica that was not stopped is what it was. -/
def onStopped (controller : Controller) (id : String) : Except ClusterError Unit → Controller
  | .ok () => controller.publish
  | .error _ =>
      (controller.changeReplica (·.id = id) fun replica =>
        { replica with phase := if replica.readyAt.isSome then .ready else .launching }).publish

/-- The controller after the result of a release. A container that the allocator does not know is
released; any other failure is kept for the next round. -/
def onReleased (controller : Controller) (id : String) : Except ClusterError Unit → Controller
  | .ok () | .error (.unknownReplica _) => controller.publish
  | .error _ => { controller with unreleased := controller.unreleased.insert id () }.publish

/-- The controller after the result of background work. -/
def onFinished (controller : Controller) (work : Work) (result : Except ClusterError Unit)
    (now : Nat) : Controller :=
  match work with
  | .launch replica => controller.onLaunched replica result now
  | .stop replica => controller.onStopped replica.id result
  | .release id => controller.onReleased id result

/-- Asks the oldest replica that is not being stopped to stop. It stays in the running set until
its completion. -/
def stopOldest (controller : Controller) : Controller :=
  match controller.running.find? Replica.isActive with
  | none => controller
  | some replica =>
      (controller.changeReplica Replica.isActive ({ · with phase := .stopping })).start
        (.stop { replica with phase := .stopping })

/-- Gives back again the containers whose release failed. -/
def retryReleases (controller : Controller) : Controller :=
  controller.unreleased.keys.foldl (fun controller id => controller.start (.release id))
    { controller with unreleased := ∅ }

end Fleet.Controller
