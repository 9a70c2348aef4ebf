import Fleet.Controller.Running
import Fleet.Rehearsal.Cluster

/-!
# Scenarios

A scenario plays steps against a rehearsed cluster while the controller runs. Time passes only in
the waits of the scenario; at the end of each, what readers can see is recorded.
-/

namespace Fleet.Rehearsal

/-- A step of a scenario. -/
inductive Step where
  /-- Changes the cluster at once. -/
  | act (change : Cluster → Cluster)
  | signal (value : Bool)
  /-- Gives up the shutdown signal. -/
  | dropSignal
  | wait (duration : Duration)
  /-- Waits for the end of the controller. -/
  | join

/-- What is recorded of a step. -/
inductive Entry where
  | acted
  | waited (handle : Handle) (calls : List Call) (finished : Bool)
  | joined (handle : Handle) (calls : List Call)

/-- A rehearsed cluster with the steps that are still to be played. -/
structure Scenario where
  cluster : Cluster
  /-- The steps that have not begun. -/
  steps : List Step := []
  /-- The end of the wait that has begun. -/
  waitEnd : Option Instant := none
  /-- The shutdown signal, unless it was given up. -/
  signal : Option Bool := some false
  /-- Whether the controller has ended. -/
  isFinished : Bool := false
  /-- The entries so far, the last one first. -/
  entries : List Entry := []

namespace Scenario

/-- The scenario at an instant, or at its own where that is later. -/
def moveTo (scenario : Scenario) (instant : Instant) : Scenario :=
  if scenario.cluster.now < instant then
    { scenario with cluster := { scenario.cluster with now := instant } }
  else scenario

/-- The scenario with an entry more. -/
def record (scenario : Scenario) (entry : Entry) : Scenario :=
  { scenario with entries := entry :: scenario.entries }

/-- The scenario with an entry that reports all calls. -/
def recordCalls (scenario : Scenario) (entry : List Call → Entry) : Scenario :=
  let (calls, cluster) := scenario.cluster.report fun _ => true
  { scenario with cluster := cluster }.record (entry calls)

/-- Plays the steps that take no time, up to a wait, which begins, or to a join that has to wait. -/
def play (handle : Handle) : List Step → Scenario → Scenario
  | [], scenario => { scenario with steps := [] }
  | .act change :: rest, scenario =>
      play handle rest ({ scenario with cluster := change scenario.cluster }.record .acted)
  | .signal value :: rest, scenario =>
      play handle rest ({ scenario with signal := some value }.record .acted)
  | .dropSignal :: rest, scenario =>
      play handle rest ({ scenario with signal := none }.record .acted)
  | .wait duration :: rest, scenario =>
      { scenario with steps := rest, waitEnd := some (scenario.cluster.now.after duration) }
  | .join :: rest, scenario =>
      if scenario.isFinished then
        play handle rest (scenario.recordCalls (.joined handle))
      else { scenario with steps := .join :: rest }

/-- Ends the wait that has begun, and plays on. -/
def endWait (handle : Handle) (waitEnd : Instant) (scenario : Scenario) : Scenario :=
  let waited := { scenario.moveTo waitEnd with waitEnd := none }
  let recorded := waited.recordCalls (.waited handle · scenario.isFinished)
  play handle recorded.steps recorded

/-- Lets time pass until an instant, or until the scenario is to stop before it, in at most the
given number of waits. -/
def passWaits (handle : Handle) (limit : Instant) (stops : Scenario → Bool) :
    (waits : Nat) → Scenario → Scenario
  | 0, scenario => scenario.moveTo limit
  | waits + 1, scenario =>
      match scenario.waitEnd with
      | none => scenario.moveTo limit
      | some waitEnd =>
          if limit < waitEnd then scenario.moveTo limit
          else
            let scenario := scenario.endWait handle waitEnd
            if stops scenario then scenario else passWaits handle limit stops waits scenario

/-- Lets time pass until an instant, or until the scenario is to stop before it. -/
def pass (stops : Scenario → Bool) (handle : Handle) (limit : Instant) (scenario : Scenario) :
    Scenario :=
  passWaits handle limit stops (scenario.steps.length + 1) scenario

/-- Whether the shutdown signal reads true. -/
def isCancelled (scenario : Scenario) : Bool := scenario.signal == some true

/-- Whether nothing is left to be played. -/
def isOver (scenario : Scenario) : Bool := scenario.steps.isEmpty && scenario.waitEnd.isNone

/-- Whether the controller is to end: the signal asks for it, was given up, or nobody is left to
give it. -/
def isEnding (scenario : Scenario) : Bool := scenario.signal != some false || scenario.isOver

/-- The scenario after a change of its cluster, with a value. -/
def onCluster {Value : Type} (change : Cluster → Value × Cluster) (scenario : Scenario) :
    Value × Scenario :=
  let (value, cluster) := change scenario.cluster
  (value, { scenario with cluster := cluster })

/-- The cluster of a scenario, as the controller meets it. -/
def surroundings : Surroundings Scenario where
  clock scenario := scenario.cluster.now
  epoch scenario := scenario.cluster.now.wholeMilliseconds
  register := onCluster fun cluster =>
    cluster.perform .register cluster.registration
  unregister := onCluster (Cluster.perform .unregister ())
  request request := onCluster (Cluster.perform (.request request) ())
  release replica := onCluster (Cluster.perform (.release replica) ())
  launch replica context := onCluster fun cluster =>
    Cluster.perform (.launch replica.id) ()
      { cluster with lastLaunch := some context }
  stop replica := onCluster (Cluster.perform (.stop replica.id) ())
  ready replica := onCluster fun cluster =>
    ((cluster.answersOf replica.id).ready, cluster.log (.ready replica.id))
  metrics replica := onCluster fun cluster =>
    ((cluster.answersOf replica.id).metrics, cluster.log (.metrics replica.id))
  receive := onCluster fun cluster =>
    (cluster.events.head?, { cluster with events := cluster.events.drop 1 })
  isCancelled := isCancelled
  isEnding := isEnding
  rest := pass isCancelled
  await := pass fun scenario => !scenario.cluster.events.isEmpty || scenario.isEnding

/-- The time that the remaining steps take. -/
def remaining (scenario : Scenario) : Duration :=
  ⟨(scenario.steps.map fun
    | .wait duration => duration.nanoseconds
    | _ => 0).foldl (· + ·) 0⟩

/-- Plays all that is left after the end of the controller. -/
def conclude (handle : Handle) (scenario : Scenario) : Scenario :=
  let finished := { scenario with isFinished := true }
  let played := if finished.waitEnd.isNone then play handle finished.steps finished else finished
  let last := (played.waitEnd.getD played.cluster.now).after played.remaining
  pass (fun _ => false) handle last played

/-- The number of steps after which a rehearsed controller is taken to go on forever. -/
def horizon : Nat := 1000000

/-- Runs a controller through a scenario to its end. -/
def run (controller : Controller) (scenario : Scenario) :
    Except ClusterError Unit × Controller × Scenario :=
  let (result, controller, scenario) :=
    controller.run surroundings horizon (play {} scenario.steps scenario)
  (result, controller, scenario.conclude controller.handle)

end Scenario

end Fleet.Rehearsal
