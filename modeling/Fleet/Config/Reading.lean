import Fleet.Config.Basic
import Fleet.Toml.Reading

/-!
# Reading configurations

A section is a table of named fields. A missing field takes its default, an unknown one is passed
over, and a value of the wrong kind or out of range makes the whole configuration unreadable. A
section may also be written as an array of its first fields in order.
-/

namespace Fleet.Config

open Toml (Value)

/-- The fields given for a section. -/
structure Section where
  fields : List (String × Value)

namespace Section

/-- The section written by a value, given the names of its fields in order. A point in time has no
fields that a section knows. -/
def ofValue? (names : List String) : Value → Option Section
  | .table fields => some ⟨fields⟩
  | .array items => some ⟨names.zip items⟩
  | .moment _ => some ⟨[]⟩
  | _ => none

/-- The value of a field; the default where it is missing. -/
def get {Item : Type} (given : Section) (name : String) (read : Value → Option Item)
    (default : Item) : Option Item :=
  match given.fields.lookup name with
  | none => some default
  | some value => read value

end Section

/-- A text. -/
def readText : Value → Option String
  | .text value => some value
  | _ => none

/-- A text that may be absent. -/
def readOptionalText (value : Value) : Option (Option String) :=
  (readText value).map some

/-- A truth value. -/
def readBoolean : Value → Option Bool
  | .boolean value => some value
  | _ => none

/-- A floating-point number; an integer is taken for the nearest one. -/
def readNumber : Value → Option Binary64
  | .float value => some value
  | .integer value => some (Binary64.ofRatio (value < 0) value.natAbs 1)
  | _ => none

/-- A natural number below a limit. -/
def readNatural (limit : Nat) : Value → Option Nat
  | .integer value => if 0 ≤ value ∧ value < limit then some value.toNat else none
  | _ => none

/-- A natural number of 16 bits. -/
def readWord16 (value : Value) : Option UInt16 := (readNatural UInt16.size value).map UInt16.ofNat

/-- A natural number of 32 bits. -/
def readWord32 (value : Value) : Option UInt32 := (readNatural UInt32.size value).map UInt32.ofNat

/-- A natural number of 64 bits. -/
def readWord64 (value : Value) : Option UInt64 := (readNatural UInt64.size value).map UInt64.ofNat

/-- A list of items. -/
def readList {Item : Type} (read : Value → Option Item) : Value → Option (List Item)
  | .array items => items.mapM read
  | _ => none

/-- Texts under names. A point in time counts as its text under a reserved name. -/
def readTexts : Value → Option (SortedMap String)
  | .table fields => do
      let entries ← fields.mapM fun (name, value) => (readText value).map (name, ·)
      return SortedMap.ofList entries
  | .moment text => some (SortedMap.ofList [("$__toml_private_datetime", text)])
  | _ => none

/-- The server section. -/
def readServer (value : Value) : Option ServerConfig := do
  let given ← Section.ofValue? ["image", "model_repository", "http_port", "grpc_port",
    "metrics_port", "bind_address", "tensor_parallelism", "pipeline_parallelism", "secrets_path",
    "rank_model"] value
  let default : ServerConfig := {}
  return {
    image := ← given.get "image" readText default.image
    modelRepository := ← given.get "model_repository" readText default.modelRepository
    httpPort := ← given.get "http_port" readWord16 default.httpPort
    grpcPort := ← given.get "grpc_port" readWord16 default.grpcPort
    metricsPort := ← given.get "metrics_port" readWord16 default.metricsPort
    bindAddress := ← given.get "bind_address" readText default.bindAddress
    tensorParallelism := ← given.get "tensor_parallelism" readWord32 default.tensorParallelism
    pipelineParallelism := ← given.get "pipeline_parallelism" readWord32
      default.pipelineParallelism
    secretsPath := ← given.get "secrets_path" readOptionalText default.secretsPath
    rankModel := ← given.get "rank_model" readOptionalText default.rankModel }

/-- The container section. -/
def readContainer (value : Value) : Option ContainerConfig := do
  let given ← Section.ofValue? ["memory_mb", "vcores", "placement_tag", "docker_network",
    "docker_privileged", "docker_delayed_removal", "docker_mounts", "docker_ports", "env"] value
  let default : ContainerConfig := {}
  return {
    memory := ← given.get "memory_mb" readWord64 default.memory
    processors := ← given.get "vcores" readWord32 default.processors
    placementTag := ← given.get "placement_tag" readText default.placementTag
    network := ← given.get "docker_network" readOptionalText default.network
    privileged := ← given.get "docker_privileged" readBoolean default.privileged
    delayedRemoval := ← given.get "docker_delayed_removal" readBoolean default.delayedRemoval
    mounts := ← given.get "docker_mounts" readOptionalText default.mounts
    ports := ← given.get "docker_ports" readOptionalText default.ports
    environment := ← given.get "env" readTexts default.environment }

/-- The scaling section. -/
def readScaling (value : Value) : Option ScalingConfig := do
  let given ← Section.ofValue? ["up_threshold", "down_threshold", "min_replicas", "max_replicas",
    "cooldown"] value
  let default : ScalingConfig := {}
  return {
    upThreshold := ← given.get "up_threshold" readNumber default.upThreshold
    downThreshold := ← given.get "down_threshold" readNumber default.downThreshold
    minimum := ← given.get "min_replicas" readWord32 default.minimum
    maximum := ← given.get "max_replicas" readWord32 default.maximum
    cooldown := ← given.get "cooldown" readText default.cooldown }

/-- The breaker section. -/
def readBreaker (value : Value) : Option BreakerConfig := do
  let given ← Section.ofValue? ["failure_threshold", "reset_timeout", "half_open_max_probes"] value
  let default : BreakerConfig := {}
  return {
    failureThreshold := ← given.get "failure_threshold" readWord32 default.failureThreshold
    resetTimeout := ← given.get "reset_timeout" readText default.resetTimeout
    halfOpenProbes := ← given.get "half_open_max_probes" readWord32 default.halfOpenProbes }

/-- The retry section. -/
def readRetry (value : Value) : Option RetryConfig := do
  let given ← Section.ofValue? ["max_retries", "initial_delay", "max_delay", "multiplier"] value
  let default : RetryConfig := {}
  return {
    maxRetries := ← given.get "max_retries" readWord32 default.maxRetries
    initialDelay := ← given.get "initial_delay" readText default.initialDelay
    maxDelay := ← given.get "max_delay" readText default.maxDelay
    multiplier := ← given.get "multiplier" readNumber default.multiplier }

/-- The controller section. -/
def readController (value : Value) : Option ControllerConfig := do
  let given ← Section.ofValue? ["tick_interval", "probe_timeout", "ready_timeout",
    "allocation_timeout", "breaker", "retry"] value
  let default : ControllerConfig := {}
  return {
    tickInterval := ← given.get "tick_interval" readText default.tickInterval
    probeTimeout := ← given.get "probe_timeout" readText default.probeTimeout
    readyTimeout := ← given.get "ready_timeout" readText default.readyTimeout
    allocationTimeout := ← given.get "allocation_timeout" readText default.allocationTimeout
    breaker := ← given.get "breaker" readBreaker default.breaker
    retry := ← given.get "retry" readRetry default.retry }

/-- A rule of access. -/
def readRule (value : Value) : Option AccessRule := do
  let given ← Section.ofValue? ["users", "groups", "actions", "resources", "allow"] value
  return {
    users := ← given.get "users" (readList readText) []
    groups := ← given.get "groups" (readList readText) []
    actions := ← given.get "actions" (readList readText) []
    resources := ← given.get "resources" (readList readText) []
    allow := ← given.get "allow" readBoolean false }

/-- The section of the status surface. -/
def readApi (value : Value) : Option ApiConfig := do
  let given ← Section.ofValue? ["port", "bind_address", "token", "rules"] value
  let default : ApiConfig := {}
  return {
    port := ← given.get "port" readWord16 default.port
    bindAddress := ← given.get "bind_address" readText default.bindAddress
    token := ← given.get "token" readOptionalText default.token
    rules := ← given.get "rules" (readList readRule) default.rules }

/-- A node. -/
def readNode (value : Value) : Option NodeConfig := do
  let given ← Section.ofValue? ["name", "host", "memory_mb", "vcores", "gpus"] value
  let default : NodeConfig := {}
  return {
    name := ← given.get "name" readText default.name
    host := ← given.get "host" readText default.host
    memory := ← given.get "memory_mb" readWord64 default.memory
    processors := ← given.get "vcores" readWord32 default.processors
    accelerators := ← given.get "gpus" readWord32 default.accelerators }

/-- The section of the static cluster. -/
def readCluster (value : Value) : Option ClusterConfig := do
  let given ← Section.ofValue? ["nodes", "log_dir"] value
  let default : ClusterConfig := {}
  return {
    nodes := ← given.get "nodes" (readList readNode) default.nodes
    logDirectory := ← given.get "log_dir" readText default.logDirectory }

/-- The configuration that a table of sections gives. -/
def ofFields? (fields : List (String × Value)) : Option Config := do
  let given : Section := ⟨fields⟩
  return {
    server := ← given.get "server" readServer {}
    container := ← given.get "container" readContainer {}
    scaling := ← given.get "scaling" readScaling {}
    controller := ← given.get "controller" readController {}
    api := ← given.get "api" readApi {}
    cluster := ← given.get "cluster" readCluster {} }

/-- The configuration that a text denotes. -/
def read? (text : String) : Option Config :=
  (Toml.read? text).bind ofFields?

end Fleet.Config
