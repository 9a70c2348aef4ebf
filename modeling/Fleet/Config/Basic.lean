import Fleet.Binary64.Arithmetic
import Fleet.Capability
import Fleet.Cluster.Replica
import Fleet.SortedMap

/-!
# Configuration

What a deployment can configure, with the stock deployment as the default of every field.
Durations stay texts here; `Fleet.Config.Validation` reads them.
-/

namespace Fleet

/-- How the inference server of a replica is launched. -/
structure ServerConfig where
  image : String := "nvcr.io/nvidia/tritonserver:24.09-py3"
  /-- Where the models are: a local path, or a remote location that is staged before the launch. -/
  modelRepository : String := "hdfs:///models"
  httpPort : UInt16 := 8000
  grpcPort : UInt16 := 8001
  metricsPort : UInt16 := 8002
  bindAddress : String := "0.0.0.0"
  tensorParallelism : UInt32 := 1
  pipelineParallelism : UInt32 := 1
  secretsPath : Option String := none
  /-- The model that the ranks after the first one load. -/
  rankModel : Option String := some "tensorrt_llm"
  deriving DecidableEq

/-- The accelerators that one replica occupies, within a 32-bit count. -/
def ServerConfig.worldSize (server : ServerConfig) : Nat :=
  min (server.tensorParallelism.toNat * server.pipelineParallelism.toNat) (UInt32.size - 1)

/-- The size, the placement and the environment of a container. -/
structure ContainerConfig where
  memory : UInt64 := 4096
  processors : UInt32 := 2
  placementTag : String := "nvidia"
  network : Option String := some "host"
  privileged : Bool := false
  delayedRemoval : Bool := false
  mounts : Option String := none
  ports : Option String := none
  environment : SortedMap String := ∅
  deriving DecidableEq

/-- When the number of replicas changes. -/
structure ScalingConfig where
  upThreshold : Binary64 := Binary64.ofDecimal false 7 (-1)
  downThreshold : Binary64 := Binary64.ofDecimal false 2 (-1)
  minimum : UInt32 := 1
  maximum : UInt32 := 10
  cooldown : String := "60s"
  deriving DecidableEq

/-- When circuit breakers open and probe. -/
structure BreakerConfig where
  failureThreshold : UInt32 := 5
  resetTimeout : String := "30s"
  halfOpenProbes : UInt32 := 1
  deriving DecidableEq

/-- How cluster calls are retried. -/
structure RetryConfig where
  maxRetries : UInt32 := 3
  initialDelay : String := "100ms"
  maxDelay : String := "5s"
  multiplier : Binary64 := 2
  deriving DecidableEq

/-- The periods of the controller. -/
structure ControllerConfig where
  tickInterval : String := "15s"
  probeTimeout : String := "3s"
  readyTimeout : String := "2s"
  allocationTimeout : String := "120s"
  breaker : BreakerConfig := {}
  retry : RetryConfig := {}
  deriving DecidableEq

/-- A rule of access: who may do what with which resources. -/
structure AccessRule where
  users : List String := []
  groups : List String := []
  actions : List String := []
  resources : List String := []
  allow : Bool := false
  deriving DecidableEq

/-- The status surface. -/
structure ApiConfig where
  port : UInt16 := 8888
  bindAddress : String := "0.0.0.0"
  /-- The secret that requests must carry, if there is one. -/
  token : Option String := none
  rules : List AccessRule := []
  deriving DecidableEq

/-- A node of a static cluster. -/
structure NodeConfig where
  name : String := "localhost"
  host : String := "127.0.0.1"
  memory : UInt64 := 65536
  processors : UInt32 := 16
  accelerators : UInt32 := 8
  deriving DecidableEq

/-- What a node offers. -/
def NodeConfig.capability (node : NodeConfig) : Capability :=
  ⟨node.memory, node.processors, node.accelerators⟩

/-- A static cluster. -/
structure ClusterConfig where
  nodes : List NodeConfig := [{}]
  /-- The directory of the logs of replicas. -/
  logDirectory : String := "/tmp/tarn"
  deriving DecidableEq

/-- A whole configuration. -/
structure Config where
  server : ServerConfig := {}
  container : ContainerConfig := {}
  scaling : ScalingConfig := {}
  controller : ControllerConfig := {}
  api : ApiConfig := {}
  cluster : ClusterConfig := {}
  deriving DecidableEq

namespace Config

/-- The resources requested for each replica. -/
def capability (config : Config) : Capability where
  memory := config.container.memory
  processors := config.container.processors
  accelerators := UInt32.ofNat config.server.worldSize

/-- The placement rule of replicas. -/
def placement (config : Config) : Placement :=
  ⟨config.container.placementTag⟩

end Config

end Fleet
