import Fleet.Cluster.Error
import Fleet.Cluster.Process
import Fleet.Config.Basic

/-!
# A cluster of static nodes

The local cluster places containers on a fixed list of nodes: at most one with the same tag on each
node, and only where the node has room. Each container runs as a process. A container that was
launched can be stopped through the switch of its latest process; the end of any of its processes
frees its place and is reported.
-/

namespace Fleet

/-- A container that has a place on a node. -/
structure PlacedContainer where
  /-- The position of the node in the list of nodes. -/
  node : Nat
  tag : String
  resources : Capability
  deriving DecidableEq, Repr

/-- A process that runs a container. -/
structure ContainerProcess where
  number : Nat
  replica : String
  /-- Whether the process was told to stop. -/
  isKilled : Bool := false
  deriving DecidableEq, Repr

/-- The state of a cluster of static nodes. -/
structure LocalCluster where
  nodes : List NodeConfig
  isRegistered : Bool := false
  /-- The number of containers placed so far. -/
  granted : Nat := 0
  /-- The number of processes started so far. -/
  started : Nat := 0
  placements : SortedMap PlacedContainer := ∅
  /-- The process that a stop of each launched container reaches. -/
  switches : SortedMap Nat := ∅
  /-- The processes whose end was not reported yet. -/
  processes : List ContainerProcess := []
  /-- The events that were not received yet, oldest first. -/
  events : List ClusterEvent := []

namespace LocalCluster

/-- The cluster after it sent an event, which reaches nobody without a registration. -/
def emit (cluster : LocalCluster) (event : ClusterEvent) : LocalCluster :=
  if cluster.isRegistered then { cluster with events := cluster.events ++ [event] } else cluster

/-- The events that were not received yet, and the cluster after they were received. -/
def receive (cluster : LocalCluster) : List ClusterEvent × LocalCluster :=
  (cluster.events, { cluster with events := [] })

/-- The containers on a node. -/
def containersOn (cluster : LocalCluster) (node : Nat) : List PlacedContainer :=
  cluster.placements.values.filter (·.node = node)

/-- What the containers on a node use. -/
def usedOn (cluster : LocalCluster) (node : Nat) : Capability :=
  (cluster.containersOn node).foldl (fun used placed => used.add placed.resources) {}

/-- What is left of a node. -/
def freeOn (cluster : LocalCluster) (node : NodeConfig) (position : Nat) : Capability :=
  node.capability.subtract (cluster.usedOn position)

/-- What is left of all nodes. -/
def available (cluster : LocalCluster) : Capability :=
  cluster.nodes.zipIdx.foldl
    (fun total (node, position) => total.add (cluster.freeOn node position)) {}

/-- Whether a node can take a container: none with its tag is there, and there is room for it. -/
def canHost (cluster : LocalCluster) (request : AllocationRequest) (node : NodeConfig)
    (position : Nat) : Bool :=
  !(cluster.containersOn position).any (·.tag = request.placement.tag) &&
    (cluster.freeOn node position).fits request.capability

/-- The cluster after it told what is available. -/
def announce (cluster : LocalCluster) : LocalCluster :=
  cluster.emit (.resourcesUpdated cluster.available)

/-- Registers the controller. Nothing is left from earlier attempts. -/
def register (cluster : LocalCluster) : Except ClusterError Registration × LocalCluster :=
  if cluster.nodes.isEmpty then (.error (.registration "no nodes configured"), cluster)
  else (.ok ⟨[], cluster.available⟩, { cluster with isRegistered := true })

/-- The name of a container by its number. -/
def containerName (number : Nat) : String :=
  "container_" ++ String.ofList (Text.paddedDigits 6 number)

/-- The refusal of a request that no node can host. -/
def denial (request : AllocationRequest) : ClusterError :=
  .allocationDenied ("no node can host " ++ request.capability.describe ++ " with tag '" ++
    request.placement.tag ++ "'")

/-- The cluster with a new container on a node. -/
def place (cluster : LocalCluster) (request : AllocationRequest) (node : NodeConfig)
    (position : Nat) : LocalCluster :=
  let name := containerName (cluster.granted + 1)
  ({ cluster with
      granted := cluster.granted + 1
      placements := cluster.placements.insert name
        ⟨position, request.placement.tag, request.capability⟩ }.emit
    (.allocated [⟨name, node.name, node.host, request.capability⟩])).announce

/-- Places a container on the first node that can take it. -/
def request (cluster : LocalCluster) (request : AllocationRequest) :
    Except ClusterError Unit × LocalCluster :=
  if cluster.isRegistered then
    match cluster.nodes.zipIdx.find? fun (node, position) =>
        cluster.canHost request node position with
    | some (node, position) => (.ok (), cluster.place request node position)
    | none => (.error (denial request), cluster)
  else (.error (.nonRetryable "allocator not registered"), cluster)

/-- The cluster in which the process behind a container's switch, if there is one, is told to
stop. -/
def pull (cluster : LocalCluster) (replica : String) : LocalCluster :=
  match cluster.switches.get? replica with
  | none => cluster
  | some number =>
      { cluster with
        switches := cluster.switches.erase replica
        processes := cluster.processes.map fun process =>
          if process.number = number then { process with isKilled := true } else process }

/-- The cluster after a container ended: its place is free, its switch is gone, and its completion
is reported. -/
def finish (cluster : LocalCluster) (completion : Completion) : LocalCluster :=
  let freed := { cluster with placements := cluster.placements.erase completion.replica }
  ((freed.pull completion.replica).emit (.completed [completion])).announce

/-- Gives a container back, and stops its process. -/
def release (cluster : LocalCluster) (replica : String) :
    Except ClusterError Unit × LocalCluster :=
  if cluster.placements.contains replica then
    let freed := { cluster with placements := cluster.placements.erase replica }
    (.ok (), (freed.pull replica).announce)
  else (.error (.unknownReplica replica), cluster)

/-- Ends the registration, and stops every process that a switch reaches. -/
def unregister (cluster : LocalCluster) : Except ClusterError Unit × LocalCluster :=
  (.ok (), { cluster.switches.keys.foldl pull cluster with isRegistered := false })

/-- Starts the process of a container, given whether its logs could be created. A process that was
started earlier for the same container loses its switch and stops. -/
def launch (cluster : LocalCluster) (replica : String) (logs : Except String Unit) :
    Except ClusterError Unit × LocalCluster :=
  if cluster.placements.contains replica then
    match logs with
    | .error reason => (.error (.nonRetryable reason), cluster)
    | .ok () =>
        let pulled := cluster.pull replica
        (.ok (), { pulled with
          started := pulled.started + 1
          switches := pulled.switches.insert replica pulled.started
          processes := pulled.processes ++ [{ number := pulled.started, replica := replica }] })
  else (.error (.unknownReplica replica), cluster)

/-- Stops a container: its process where there is one, else at once. -/
def stop (cluster : LocalCluster) (replica : String) :
    Except ClusterError Unit × LocalCluster :=
  if cluster.switches.contains replica then (.ok (), cluster.pull replica)
  else if cluster.placements.contains replica then
    (.ok (), cluster.finish (stoppedCompletion replica "stopped before launch"))
  else (.error (.unknownReplica replica), cluster)

/-- The cluster after a process ended: by itself, or because it was told to stop. -/
def reap (cluster : LocalCluster) (process : ContainerProcess) (ending : ProcessEnding) :
    LocalCluster :=
  let others := cluster.processes.filter (·.number ≠ process.number)
  { cluster with processes := others }.finish <|
    if process.isKilled then stoppedCompletion process.replica "stopped"
    else ending.completion process.replica

end LocalCluster

end Fleet
