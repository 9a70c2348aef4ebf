import Fleet.Config.Basic
import Fleet.Toml.Value

/-!
# Configurations as documents

Each section is a table of its fields in order. A field without a value is left out.
-/

namespace Fleet.Config

open Toml (Value)

/-- A natural number. -/
def natural (value : Nat) : Value := .integer value

/-- A field that may be left out. -/
def optionalField (name : String) : Option String → List (String × Value)
  | none => []
  | some value => [(name, .text value)]

/-- A list of texts. -/
def texts (values : List String) : Value := .array (values.map .text)

/-- The server section. -/
def serverFields (server : ServerConfig) : List (String × Value) :=
  [("image", .text server.image), ("model_repository", .text server.modelRepository),
    ("http_port", natural server.httpPort.toNat), ("grpc_port", natural server.grpcPort.toNat),
    ("metrics_port", natural server.metricsPort.toNat), ("bind_address", .text server.bindAddress),
    ("tensor_parallelism", natural server.tensorParallelism.toNat),
    ("pipeline_parallelism", natural server.pipelineParallelism.toNat)] ++
    optionalField "secrets_path" server.secretsPath ++ optionalField "rank_model" server.rankModel

/-- The container section. -/
def containerFields (container : ContainerConfig) : List (String × Value) :=
  [("memory_mb", natural container.memory.toNat), ("vcores", natural container.processors.toNat),
    ("placement_tag", .text container.placementTag)] ++
    optionalField "docker_network" container.network ++
    [("docker_privileged", .boolean container.privileged),
      ("docker_delayed_removal", .boolean container.delayedRemoval)] ++
    optionalField "docker_mounts" container.mounts ++
    optionalField "docker_ports" container.ports ++
    [("env", .table (container.environment.entries.map fun (name, value) => (name, .text value)))]

/-- The scaling section. -/
def scalingFields (scaling : ScalingConfig) : List (String × Value) :=
  [("up_threshold", .float scaling.upThreshold), ("down_threshold", .float scaling.downThreshold),
    ("min_replicas", natural scaling.minimum.toNat),
    ("max_replicas", natural scaling.maximum.toNat), ("cooldown", .text scaling.cooldown)]

/-- The breaker section. -/
def breakerFields (breaker : BreakerConfig) : List (String × Value) :=
  [("failure_threshold", natural breaker.failureThreshold.toNat),
    ("reset_timeout", .text breaker.resetTimeout),
    ("half_open_max_probes", natural breaker.halfOpenProbes.toNat)]

/-- The retry section. -/
def retryFields (retry : RetryConfig) : List (String × Value) :=
  [("max_retries", natural retry.maxRetries.toNat), ("initial_delay", .text retry.initialDelay),
    ("max_delay", .text retry.maxDelay), ("multiplier", .float retry.multiplier)]

/-- The controller section. -/
def controllerFields (controller : ControllerConfig) : List (String × Value) :=
  [("tick_interval", .text controller.tickInterval),
    ("probe_timeout", .text controller.probeTimeout),
    ("ready_timeout", .text controller.readyTimeout),
    ("allocation_timeout", .text controller.allocationTimeout),
    ("breaker", .table (breakerFields controller.breaker)),
    ("retry", .table (retryFields controller.retry))]

/-- A rule of access. -/
def ruleFields (rule : AccessRule) : List (String × Value) :=
  [("users", texts rule.users), ("groups", texts rule.groups), ("actions", texts rule.actions),
    ("resources", texts rule.resources), ("allow", .boolean rule.allow)]

/-- The section of the status surface. -/
def apiFields (api : ApiConfig) : List (String × Value) :=
  [("port", natural api.port.toNat), ("bind_address", .text api.bindAddress)] ++
    optionalField "token" api.token ++
    [("rules", .array (api.rules.map fun rule => .table (ruleFields rule)))]

/-- A node. -/
def nodeFields (node : NodeConfig) : List (String × Value) :=
  [("name", .text node.name), ("host", .text node.host),
    ("memory_mb", natural node.memory.toNat), ("vcores", natural node.processors.toNat),
    ("gpus", natural node.accelerators.toNat)]

/-- The section of the static cluster. -/
def clusterFields (cluster : ClusterConfig) : List (String × Value) :=
  [("nodes", .array (cluster.nodes.map fun node => .table (nodeFields node))),
    ("log_dir", .text cluster.logDirectory)]

/-- The document of a configuration. -/
def fields (config : Config) : List (String × Value) :=
  [("server", .table (serverFields config.server)),
    ("container", .table (containerFields config.container)),
    ("scaling", .table (scalingFields config.scaling)),
    ("controller", .table (controllerFields config.controller)),
    ("api", .table (apiFields config.api)),
    ("cluster", .table (clusterFields config.cluster))]

end Fleet.Config
