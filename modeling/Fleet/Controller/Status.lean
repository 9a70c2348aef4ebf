import Fleet.Breaker
import Fleet.Cluster.Replica
import Fleet.Telemetry.Aggregator

/-!
# Published status

The controller publishes a view of itself after each change. Readers see the last published view
and the telemetry, and never the controller at work.
-/

namespace Fleet

/-- A view of the controller at one moment. -/
structure Status where
  target : Nat := 0
  /-- The launched replicas, oldest first. -/
  running : List Replica := []
  /-- The number of requests that were not granted yet. -/
  pending : Nat := 0
  /-- The number of launches in flight. -/
  launching : Nat := 0
  load : Binary64 := 0
  available : Capability := {}
  breakers : List Breaker.Snapshot := []
  deriving DecidableEq

namespace Status

/-- The number of replicas that serve requests. -/
def readyCount (status : Status) : Nat :=
  (status.running.filter Replica.isReady).length

/-- The share of the target that is ready, at most one; one where nothing is wanted. -/
def progress (status : Status) : Binary64 :=
  if status.target = 0 then 1
  else (Binary64.ofNat status.readyCount / Binary64.ofNat status.target).min 1

end Status

/-- What readers can see: the last published status and the telemetry. -/
structure Handle where
  status : Status := {}
  aggregator : Telemetry.Aggregator := {}

end Fleet
