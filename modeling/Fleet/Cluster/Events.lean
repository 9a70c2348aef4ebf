import Fleet.Cluster.Replica

/-!
# Grants, completions and events

The cluster answers registrations and requests at once. Everything else it tells the controller
arrives later, as an event.
-/

namespace Fleet

/-- A container that the cluster granted. -/
structure Allocation where
  replica : String
  node : String
  host : String
  resources : Capability
  deriving DecidableEq, Repr

/-- The replica that a granted container is for. -/
def Allocation.toReplica (allocation : Allocation) : Replica :=
  .allocated allocation.replica allocation.node allocation.host allocation.resources

/-- A request for one container. -/
structure AllocationRequest where
  number : Nat
  capability : Capability
  placement : Placement
  deriving DecidableEq, Repr

/-- The final report of a container. -/
structure Completion where
  replica : String
  state : Phase
  exitCode : Option Int
  diagnostics : String
  deriving DecidableEq, Repr

/-- Why a container ended: its diagnostics, else its exit code, else its state. -/
def Completion.reason (completion : Completion) : String :=
  if completion.diagnostics.isEmpty then
    match completion.exitCode with
    | some code => "exit code " ++ toString code
    | none => completion.state.title
  else completion.diagnostics

/-- What the cluster tells the controller. -/
inductive ClusterEvent where
  | allocated (allocations : List Allocation)
  | completed (completions : List Completion)
  /-- A node could not start a container that it was asked to start. -/
  | launchFailed (replica reason : String)
  /-- A failure that does not concern a single container. -/
  | trouble (reason : String)
  | resourcesUpdated (available : Capability)
  | shutdownRequested
  deriving DecidableEq, Repr

/-- The answer to a registration. -/
structure Registration where
  /-- Containers that are alive from an earlier attempt. -/
  previous : List Allocation
  available : Capability
  deriving DecidableEq, Repr

end Fleet
