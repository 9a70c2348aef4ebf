import Fleet.Controller.Basic

/-!
# Requests for containers

The controller requests as many containers as the target is ahead of what is committed. A refused
request ends the round of requests, and so does any other failure; the next round tries again.
-/

namespace Fleet.Controller

variable {World : Type}

/-- A call of the cluster with retries, while background work goes on. -/
def callBeside {Value : Type} (surroundings : Surroundings World) (controller : Controller)
    (operation : World → Except ClusterError Value × World) (state : Background × World) :
    Except (RetryError ClusterError) Value × Background × World :=
  let attempt (state : Background × World) : Except ClusterError Value × Background × World :=
    let (result, world) := operation state.2
    (result, state.1, world)
  let pause (duration : Duration) (state : Background × World) : Bool × Background × World :=
    state.1.pause surroundings controller.settings controller.handle duration state.2
  controller.settings.retry.call ClusterError.isTransient attempt pause state

/-- A request for a container, through the allocator's breaker and with retries. -/
def callRequest (surroundings : Surroundings World) (controller : Controller)
    (request : AllocationRequest) (world : World) :
    Except ClusterError Unit × Background × World :=
  let (result, breaker, background, world) :=
    (controller.background.breakers.breaker allocatorKey).call
      (fun state => surroundings.clock state.2)
      (controller.callBeside surroundings (surroundings.request request))
      (controller.background, world)
  (result.mapError .ofCallError,
    { background with breakers := background.breakers.put allocatorKey breaker }, world)

/-- The request that the controller issues next. -/
def nextAllocationRequest (controller : Controller) : AllocationRequest where
  number := controller.nextRequest
  capability := controller.settings.capability
  placement := controller.settings.placement

/-- Issues at most the given number of requests, until one fails. -/
def issueRequests (surroundings : Surroundings World) :
    (count : Nat) → Controller → World → Controller × World
  | 0, controller, world => (controller, world)
  | count + 1, controller, world =>
      let (result, background, world) :=
        controller.callRequest surroundings controller.nextAllocationRequest world
      let called :=
        { controller with background := background, nextRequest := controller.nextRequest + 1 }
      match result with
      | .ok () =>
          issueRequests surroundings count
            { called with
              pending := called.pending ++ [(controller.nextRequest, surroundings.clock world)] }
            world
      | .error .delayOutOfRange => ({ called with isBroken := true }, world)
      | .error _ => (called, world)

/-- Requests what is missing between the committed replicas and the target. -/
def requestMissing (surroundings : Surroundings World) (controller : Controller) (world : World) :
    Controller × World :=
  let missing := controller.target - controller.committed
  if missing = 0 then (controller, world)
  else
    let background := controller.background
    issueRequests surroundings missing
      { controller with
        background := { background with breakers := background.breakers.ensure allocatorKey } }
      world

/-- Forgets the oldest requests for as long as they are as old as the timeout. -/
def expirePending (controller : Controller) (now : Instant) : Controller :=
  { controller with
    pending := controller.pending.dropWhile fun (_, issued) =>
      controller.settings.allocationTimeout ≤ now.since issued }

end Fleet.Controller
