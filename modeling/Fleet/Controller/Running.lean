import Fleet.Controller.Rounds

/-!
# The controller at work

Settling handles queued events and background work until nothing is left. Running starts the
controller and reconciles until the shutdown signal or the cluster ends it.
-/

namespace Fleet.Controller

variable {World : Type}

/-- Moves the background on: ready jobs go on, or time passes until one is ready, at most until a
limit. -/
def advanceBackground (surroundings : Surroundings World) (controller : Controller)
    (pass : Handle → Instant → World → World) (limit : Instant) (world : World) :
    Controller × World :=
  let background := controller.background
  if background.hasReady surroundings world then
    let (background, world) := background.runReady surroundings controller.settings world
    ({ controller with background := background }, world)
  else (controller, pass controller.handle (background.earliestWake limit) world)

/-- Handles queued events first, then results of background work, until neither they nor jobs are
left, in at most the given number of steps. -/
def settle (surroundings : Surroundings World) :
    (steps : Nat) → Controller → World → Controller × World
  | 0, controller, world => (controller, world)
  | steps + 1, controller, world =>
      match surroundings.receive world with
      | (some event, world) =>
          let (controller, world) := controller.handleEvent surroundings event world
          settle surroundings steps controller world
      | (none, world) =>
          match controller.takeFinished? surroundings world with
          | some controller => settle surroundings steps controller world
          | none =>
              if controller.background.jobs.isEmpty then (controller, world)
              else
                let limit := controller.background.nextWake?.getD (surroundings.clock world)
                let (controller, world) :=
                  controller.advanceBackground surroundings surroundings.rest limit world
                settle surroundings steps controller world

/-- How late a round may be for the next one to keep to the schedule. -/
def tickTolerance : Duration := .ofMilliseconds 5

/-- When the next round is due after one that was due at an instant and is made now. -/
def nextTick (interval : Duration) (due now : Instant) : Instant :=
  if due.after tickTolerance < now then now.after interval else due.after interval

/-- Handles events, results and rounds as they come, until the controller is to end, in at most the
given number of steps. -/
def reconcile (surroundings : Surroundings World) :
    (steps : Nat) → (due : Instant) → Controller → World → Controller × World
  | 0, _, controller, world => (controller, world)
  | steps + 1, due, controller, world =>
      if controller.shutdownRequested || controller.isBroken then (controller, world)
      else
        match surroundings.receive world with
        | (some event, world) =>
            let (controller, world) := controller.handleEvent surroundings event world
            reconcile surroundings steps due controller world
        | (none, world) =>
            match controller.takeFinished? surroundings world with
            | some controller => reconcile surroundings steps due controller world
            | none =>
                let now := surroundings.clock world
                if surroundings.isEnding world then (controller, world)
                else if due ≤ now then
                  let (controller, world) := controller.tick surroundings world
                  reconcile surroundings steps
                    (nextTick controller.settings.tickInterval due now) controller world
                else
                  let (controller, world) :=
                    controller.advanceBackground surroundings surroundings.await due world
                  reconcile surroundings steps due controller world

/-- Abandons the work in flight, leaves the cluster and publishes a last view. -/
def shutDown (surroundings : Surroundings World) (controller : Controller) (world : World) :
    Controller × World :=
  let background := controller.background
  let (_, world) := surroundings.unregister world
  ({ controller with background := { background with jobs := [], finished := [] } }.publish, world)

/-- Starts the controller and reconciles until it is to end. -/
def run (surroundings : Surroundings World) (steps : Nat) (controller : Controller)
    (world : World) : Except ClusterError Unit × Controller × World :=
  match controller.startUp surroundings world with
  | (.error failure, controller, world) => (.error failure, controller, world)
  | (.ok (), controller, world) =>
      let (controller, world) := reconcile surroundings steps
        ((surroundings.clock world).after controller.settings.tickInterval) controller world
      let (controller, world) := controller.shutDown surroundings world
      (.ok (), controller, world)

end Fleet.Controller
