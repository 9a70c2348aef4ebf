import Fleet.Controller.Surroundings

/-!
# Rehearsed clusters

A rehearsed cluster answers as its scripts say and keeps a log of the calls. A call without a
script succeeds, and a replica without one is not ready and has no metrics.
-/

namespace Fleet.Rehearsal

/-- A call that the controller made. -/
inductive Call where
  | register
  | unregister
  | request (request : AllocationRequest)
  | launch (replica : String)
  | stop (replica : String)
  | release (replica : String)
  | ready (replica : String)
  | metrics (replica : String)
  deriving DecidableEq

/-- What a script is for: a kind of call, for one replica where the call concerns one. -/
structure ScriptKey where
  kind : String
  replica : String := ""
  deriving DecidableEq

/-- The kind of a call and the replica that it concerns. -/
def Call.key : Call → ScriptKey
  | register => ⟨"register", ""⟩
  | unregister => ⟨"unregister", ""⟩
  | request _ => ⟨"request", ""⟩
  | launch replica => ⟨"launch", replica⟩
  | stop replica => ⟨"stop", replica⟩
  | release replica => ⟨"release", replica⟩
  | ready replica => ⟨"probe_ready", replica⟩
  | metrics replica => ⟨"probe_metrics", replica⟩

/-- How the probes of a replica answer; none where they fail. -/
structure ProbeAnswers where
  ready : Option Bool := some false
  metrics : Option String := some ""

/-- A cluster that follows scripts. -/
structure Cluster where
  now : Instant := ⟨0⟩
  /-- What a registration answers. -/
  registration : Registration
  /-- The outcomes of the next calls of each kind: a failure, or none. -/
  scripts : List (ScriptKey × List (Option ClusterError)) := []
  probes : SortedMap ProbeAnswers := ∅
  /-- The events that were not received yet, oldest first. -/
  events : List ClusterEvent := []
  /-- The calls that were not reported yet, oldest first. -/
  calls : List Call := []
  lastLaunch : Option LaunchContext := none

namespace Cluster

/-- The cluster with a script in place of an earlier one. -/
def script (cluster : Cluster) (key : ScriptKey) (outcomes : List (Option ClusterError)) :
    Cluster :=
  { cluster with scripts := (key, outcomes) :: cluster.scripts.filter (·.1 ≠ key) }

/-- The cluster with the answers of a replica's probes. -/
def answerProbes (cluster : Cluster) (replica : String) (answers : ProbeAnswers) : Cluster :=
  { cluster with probes := cluster.probes.insert replica answers }

/-- The cluster with an event in the queue. -/
def send (cluster : Cluster) (event : ClusterEvent) : Cluster :=
  { cluster with events := cluster.events ++ [event] }

/-- The cluster with a call in its log. -/
def log (cluster : Cluster) (call : Call) : Cluster :=
  { cluster with calls := cluster.calls ++ [call] }

/-- The outcome of a call, which is taken from its script and put into the log. -/
def perform {Value : Type} (call : Call) (value : Value) (cluster : Cluster) :
    Except ClusterError Value × Cluster :=
  let logged := cluster.log call
  match cluster.scripts.lookup call.key with
  | some (outcome :: rest) =>
      (match outcome with | none => .ok value | some failure => .error failure,
        logged.script call.key rest)
  | _ => (.ok value, logged)

/-- The answers of a replica's probes. -/
def answersOf (cluster : Cluster) (replica : String) : ProbeAnswers :=
  (cluster.probes.get? replica).getD {}

/-- The calls of the chosen kinds, and the cluster whose log holds the others. -/
def report (cluster : Cluster) (chosen : Call → Bool) : List Call × Cluster :=
  (cluster.calls.filter chosen, { cluster with calls := cluster.calls.filter (!chosen ·) })

end Cluster

end Fleet.Rehearsal
