import Fleet.Capability
import Fleet.Json.Reading

/-!
# Replicas

A replica is one running unit of the workload, on one node of the cluster. A placement rule says
where replicas may go: at most one with a given tag on each node.
-/

namespace Fleet

/-- Where a replica stands in its life. The last three phases are terminal and occur only in
completion reports. -/
inductive Phase where
  | requested
  | allocated
  | launching
  | ready
  | stopping
  | completed
  | failed
  | stoppedByPolicy
  deriving DecidableEq, Repr

namespace Phase

/-- All phases, in the order of a life. -/
def all : List Phase :=
  [requested, allocated, launching, ready, stopping, completed, failed, stoppedByPolicy]

/-- The name of a phase in documents. -/
def name : Phase → String
  | requested => "requested"
  | allocated => "allocated"
  | launching => "launching"
  | ready => "ready"
  | stopping => "stopping"
  | completed => "completed"
  | failed => "failed"
  | stoppedByPolicy => "stopped_by_policy"

/-- The name of a phase in messages. -/
def title : Phase → String
  | requested => "Requested"
  | allocated => "Allocated"
  | launching => "Launching"
  | ready => "Ready"
  | stopping => "Stopping"
  | completed => "Completed"
  | failed => "Failed"
  | stoppedByPolicy => "StoppedByPolicy"

/-- The phase with a name. -/
def ofName? (name : String) : Option Phase :=
  all.find? fun phase => phase.name == name

/-- Whether nothing follows the phase. -/
def isTerminal : Phase → Bool
  | completed | failed | stoppedByPolicy => true
  | _ => false

/-- The phase that a document value names: its name, or a record of its name and nothing else. -/
def ofValue? : Json.Value → Option Phase
  | .text name => ofName? name
  | .record [(name, .null)] => ofName? name
  | _ => none

end Phase

namespace Capability

/-- The document of an amount of resources. -/
def document (capability : Capability) : Json.Value :=
  .record [("memory_mb", .whole capability.memory.toNat),
    ("vcores", .whole capability.processors.toNat),
    ("gpus", .whole capability.accelerators.toNat)]

/-- The amount of resources that a document describes. -/
def ofValue? (value : Json.Value) : Option Capability := do
  match ← value.namedFields? ["memory_mb", "vcores", "gpus"] fun _ => none with
  | [memory, processors, accelerators] =>
      let memory ← memory.asWhole? UInt64.size
      let processors ← processors.asWhole? UInt32.size
      let accelerators ← accelerators.asWhole? UInt32.size
      return ⟨UInt64.ofNat memory, UInt32.ofNat processors, UInt32.ofNat accelerators⟩
  | _ => none

end Capability

/-- One running unit of the workload; times are in milliseconds of the epoch. -/
structure Replica where
  id : String
  node : String
  host : String
  resources : Capability
  phase : Phase
  launchedAt : Nat
  readyAt : Option Nat
  deriving DecidableEq, Repr

namespace Replica

/-- A replica that was granted and not launched yet. -/
def allocated (id node host : String) (resources : Capability) : Replica where
  id := id
  node := node
  host := host
  resources := resources
  phase := .allocated
  launchedAt := 0
  readyAt := none

/-- Whether the replica serves requests. -/
def isReady (replica : Replica) : Bool := replica.phase == .ready

/-- Whether the replica has been asked to stop. -/
def isStopping (replica : Replica) : Bool := replica.phase == .stopping

/-- Whether the replica counts towards the target: it has not been asked to stop. -/
def isActive (replica : Replica) : Bool := !replica.isStopping

/-- The milliseconds from the launch until the replica was ready, once it was. -/
def startupLatency? (replica : Replica) : Option Nat :=
  replica.readyAt.map (· - replica.launchedAt)

/-- The document of a replica. -/
def document (replica : Replica) : Json.Value :=
  .record [("id", .text replica.id), ("node_id", .text replica.node), ("host", .text replica.host),
    ("resources", replica.resources.document), ("phase", .text replica.phase.name),
    ("launched_at", .whole replica.launchedAt),
    ("ready_at", Json.optional .whole replica.readyAt)]

/-- The time that a document value gives: none for null. -/
def readTime? : Json.Value → Option (Option Nat)
  | .null => some none
  | value => (value.asWhole? UInt64.size).map some

/-- The replica that a document describes. Only the time of readiness may be missing. -/
def ofValue? (value : Json.Value) : Option Replica := do
  let names := ["id", "node_id", "host", "resources", "phase", "launched_at", "ready_at"]
  match ← value.namedFields? names fun name => if name = "ready_at" then some .null else none with
  | [id, node, host, resources, phase, launchedAt, readyAt] =>
      return {
        id := ← id.asText?
        node := ← node.asText?
        host := ← host.asText?
        resources := ← Capability.ofValue? resources
        phase := ← Phase.ofValue? phase
        launchedAt := ← launchedAt.asWhole? UInt64.size
        readyAt := ← readTime? readyAt }
  | _ => none

/-- The replica that a text describes. -/
def read? (text : String) : Option Replica :=
  (Json.read? text).bind ofValue?

end Replica

/-- The rule for placing a replica: at most one with the tag on each node. -/
structure Placement where
  tag : String
  deriving DecidableEq, Repr

namespace Placement

/-- The name of the rule in documents. -/
def ruleName : String := "anti_affinity"

/-- The document of a rule. -/
def document (placement : Placement) : Json.Value :=
  .record [("type", .text ruleName), ("tag", .text placement.tag)]

/-- The rule that a document describes. The name of the rule decides how its other fields are read,
so the document is taken in as a whole first. -/
def ofValue? (value : Json.Value) : Option Placement := do
  guard value.isLoadable
  match ← value.namedFields? ["type", "tag"] fun _ => none with
  | [.text rule, .text tag] => if rule = ruleName then some ⟨tag⟩ else none
  | _ => none

/-- The rule that a text describes. -/
def read? (text : String) : Option Placement :=
  (Json.read? text).bind ofValue?

end Placement

end Fleet
