import Fleet.Controller.Containers
import Fleet.Controller.Sampling

/-!
# Starting, rounds and events

The controller registers once and adopts the containers of an earlier attempt. From then on it
reconciles in rounds and handles events in between. It publishes its view after each of these.
-/

namespace Fleet.Controller

variable {World : Type}

/-- The registration, with retries. -/
def callRegister (surroundings : Surroundings World) (controller : Controller) (world : World) :
    Except ClusterError Registration × Background × World :=
  let (result, background, world) :=
    controller.callBeside surroundings surroundings.register (controller.background, world)
  (result.mapError .ofRetryError, background, world)

/-- The controller with the containers of an earlier attempt in its running set, each one once. -/
def adoptPrevious (controller : Controller) (previous : List Allocation) (now : Nat) :
    Controller :=
  previous.foldl
    (fun controller allocation =>
      if controller.isKnown allocation.replica then controller
      else controller.adopt allocation.toReplica now)
    controller

/-- Registers, adopts what is left of an earlier attempt, and requests what is missing. Only a
failed registration is an error. -/
def startUp (surroundings : Surroundings World) (controller : Controller) (world : World) :
    Except ClusterError Unit × Controller × World :=
  let (result, background, world) := controller.callRegister surroundings world
  let controller := { controller with background := background }
  match result with
  | .error failure =>
      (.error failure, { controller with isBroken := failure = .delayOutOfRange }, world)
  | .ok registration =>
      let adopted :=
        { controller with available := registration.available }.adoptPrevious
          registration.previous (surroundings.epoch world)
      let policy := adopted.decider.policy
      let started :=
        { adopted with target := policy.clamp (max policy.minimum adopted.running.length) }
      let (controller, world) := started.requestMissing surroundings world
      (.ok (), controller.publish, world)

/-- The controller with a new target, and an alert about the change. -/
def rescale (controller : Controller) (event : String) (target now : Nat) : Controller :=
  { controller with target := target }.alert
    (.scalingEvent event controller.target target now)

/-- Acts on the target that was decided for a round. -/
def actOnTarget (surroundings : Surroundings World) (controller : Controller) (target : Nat)
    (world : World) : Controller × World :=
  let now := surroundings.epoch world
  if controller.target < target then
    (controller.rescale "Scale up" target now).requestMissing surroundings world
  else if target < controller.target then
    ((controller.rescale "Scale down" target now).stopOldest, world)
  else if controller.target < controller.activeCount && !controller.anyStopping then
    (controller.stopOldest, world)
  else (controller, world)

/-- The first part of a round: forget old requests, give back what could not be given back, and
request what is missing. -/
def replenish (surroundings : Surroundings World) (controller : Controller) (now : Instant)
    (world : World) : Controller × World :=
  (controller.expirePending now).retryReleases.requestMissing surroundings world

/-- The second part of a round: probe the running set and decide on the target. -/
def assess (surroundings : Surroundings World) (controller : Controller) (now : Instant)
    (world : World) : Nat × Controller × World :=
  let (loads, controller, world) := controller.sampleReplicas surroundings world
  let load := Telemetry.meanLoad loads
  let (target, decider) := controller.decider.decide controller.target load now
  (target, { controller with load := load, decider := decider }, world)

/-- One round: replenish, assess, and act on the target that was decided. -/
def tick (surroundings : Surroundings World) (controller : Controller) (world : World) :
    Controller × World :=
  let now := surroundings.clock world
  let (controller, world) := controller.replenish surroundings now world
  let (target, controller, world) := controller.assess surroundings now world
  let (controller, world) := controller.actOnTarget surroundings target world
  (controller.publish, world)

/-- The controller after completions, in their order. -/
def onCompletions (surroundings : Surroundings World) :
    List Completion → Controller → World → Controller × World
  | [], controller, world => (controller, world)
  | completion :: rest, controller, world =>
      let (controller, world) := controller.onCompleted surroundings completion world
      onCompletions surroundings rest controller world

/-- The completion that stands for a container which a node could not start. -/
def failedLaunch (replica reason : String) : Completion where
  replica := replica
  state := .failed
  exitCode := none
  diagnostics := reason

/-- What an event changes, before the view is published. -/
def onEvent (surroundings : Surroundings World) (controller : Controller) (event : ClusterEvent)
    (world : World) : Controller × World :=
  match event with
  | .allocated allocations => (allocations.foldl onAllocated controller, world)
  | .completed completions => onCompletions surroundings completions controller world
  | .launchFailed replica reason =>
      let (controller, world) :=
        controller.onCompleted surroundings (failedLaunch replica reason) world
      (controller.start (.release replica), world)
  | .trouble reason =>
      (controller.alert ⟨"allocator_error", reason, .warning, surroundings.epoch world⟩, world)
  | .resourcesUpdated available => ({ controller with available := available }, world)
  | .shutdownRequested => ({ controller with shutdownRequested := true }, world)

/-- Handles an event. -/
def handleEvent (surroundings : Surroundings World) (controller : Controller)
    (event : ClusterEvent) (world : World) : Controller × World :=
  let (controller, world) := controller.onEvent surroundings event world
  (controller.publish, world)

/-- Handles the oldest result of background work, if there is one. -/
def takeFinished? (surroundings : Surroundings World) (controller : Controller) (world : World) :
    Option Controller :=
  match controller.background.finished with
  | [] => none
  | (work, result) :: rest =>
      let background := controller.background
      some <| { controller with background := { background with finished := rest } }.onFinished
        work result (surroundings.epoch world)

end Fleet.Controller
