import Fleet.Config.Basic
import Fleet.Text.Blank
import Fleet.Text.Cut
import Fleet.Text.Digits

/-!
# Launch commands

The shell command that starts a replica: staging of a remote model repository, staging of secrets,
and one server process for each accelerator. Each process has its own ports, ten apart; only the
first one serves requests.
-/

namespace Fleet

/-- Why there is no launch command. -/
inductive LaunchError where
  | noProcess (tensor pipeline : Nat)
  | worldTooLarge (size : Nat)
  | offsetOverflow (rank : Nat)
  | portOverflow (base offset rank : Nat)
  deriving DecidableEq

namespace LaunchError

/-- The text of the error. -/
def message : LaunchError → String
  | noProcess tensor pipeline =>
      "invalid launch spec: world size must be at least 1 (tensor=" ++ Nat.repr tensor ++
        ", pipeline=" ++ Nat.repr pipeline ++ ")"
  | worldTooLarge size => "invalid launch spec: world size " ++ Nat.repr size ++ " too large"
  | offsetOverflow rank =>
      "invalid launch spec: rank " ++ Nat.repr rank ++ " port offset overflows"
  | portOverflow base offset rank =>
      "invalid launch spec: port " ++ Nat.repr base ++ " + " ++ Nat.repr offset ++ " for rank " ++
        Nat.repr rank ++ " overflows"

end LaunchError

/-- The ports of one server process. -/
structure PortSet where
  http : UInt16 := 8000
  grpc : UInt16 := 8001
  metrics : UInt16 := 8002
  deriving DecidableEq

namespace PortSet

/-- The distance between the ports of two consecutive ranks. -/
def stride : Nat := 10

/-- A port moved by the offset of a rank. -/
def shift (offset rank : Nat) (base : UInt16) : Except LaunchError UInt16 :=
  if base.toNat + offset < UInt16.size then .ok (UInt16.ofNat (base.toNat + offset))
  else .error (.portOverflow base.toNat offset rank)

/-- The ports of a rank: each base port plus ten for each rank before it. -/
def forRank (ports : PortSet) (rank : Nat) : Except LaunchError PortSet :=
  let offset := rank * stride
  if UInt16.size ≤ offset then .error (.offsetOverflow rank)
  else do
    let http ← shift offset rank ports.http
    let grpc ← shift offset rank ports.grpc
    let metrics ← shift offset rank ports.metrics
    return ⟨http, grpc, metrics⟩

/-- The options for the ports. -/
def options (ports : PortSet) : String :=
  "--http-port=" ++ Nat.repr ports.http.toNat ++ " --grpc-port=" ++ Nat.repr ports.grpc.toNat ++
    " --metrics-port=" ++ Nat.repr ports.metrics.toNat ++ " "

end PortSet

/-- Whether a location names a remote store: it starts with a scheme other than `file`. -/
def isRemoteLocation (location : String) : Bool :=
  match Text.cutAt? "://".toList location.toList with
  | none => false
  | some (scheme, _) =>
      !scheme.isEmpty && scheme != "file".toList &&
        scheme.all fun character =>
          Text.isAlphanumeric character || character == '+' || character == '-' || character == '.'

/-- What a launch command is made from. -/
structure LaunchSpec where
  modelRepository : String := ""
  ports : PortSet := {}
  bindAddress : String := "0.0.0.0"
  tensorParallelism : UInt32 := 1
  pipelineParallelism : UInt32 := 1
  secretsPath : Option String := none
  rankModel : Option String := some "tensorrt_llm"
  deriving DecidableEq

namespace LaunchSpec

/-- The specification that a server configuration gives. -/
def ofConfig (server : ServerConfig) : LaunchSpec where
  modelRepository := server.modelRepository
  ports := ⟨server.httpPort, server.grpcPort, server.metricsPort⟩
  bindAddress := server.bindAddress
  tensorParallelism := server.tensorParallelism
  pipelineParallelism := server.pipelineParallelism
  secretsPath := server.secretsPath
  rankModel := server.rankModel

/-- The specification with another model repository. -/
def withModelRepository (spec : LaunchSpec) (location : String) : LaunchSpec :=
  { spec with modelRepository := location }

/-- The specification with other base ports. -/
def withPorts (spec : LaunchSpec) (ports : PortSet) : LaunchSpec :=
  { spec with ports := ports }

/-- The specification with another address to serve on. -/
def withBindAddress (spec : LaunchSpec) (address : String) : LaunchSpec :=
  { spec with bindAddress := address }

/-- The specification with other degrees of parallelism. -/
def withParallelism (spec : LaunchSpec) (tensor pipeline : UInt32) : LaunchSpec :=
  { spec with tensorParallelism := tensor, pipelineParallelism := pipeline }

/-- The specification with another path of secrets; an empty path is none. -/
def withSecretsPath (spec : LaunchSpec) (path : Option String) : LaunchSpec :=
  { spec with secretsPath := path.filter fun path => !path.isEmpty }

/-- The specification with another model for the ranks after the first one. -/
def withRankModel (spec : LaunchSpec) (model : Option String) : LaunchSpec :=
  { spec with rankModel := model }

/-- The number of server processes. -/
def worldSize (spec : LaunchSpec) : Nat :=
  spec.tensorParallelism.toNat * spec.pipelineParallelism.toNat

/-- The directory that remote models are staged into. -/
def modelDirectory : String := "/models"

/-- The file that secrets are staged into. -/
def secretsFile : String := "/secrets/secrets.jks"

/-- Where a server finds its models: what has to be staged first, and the path to read from. -/
structure ModelSource where
  /-- The remote location that is copied, if the models are remote. -/
  staged : Option String
  path : String
  deriving DecidableEq

/-- The model source of a location, without its outer blanks. An empty location is the default
directory, and a remote one loses its trailing slashes. -/
def modelSource (location : String) : ModelSource :=
  let repository := Text.trim location.toList
  if repository.isEmpty then ⟨none, modelDirectory⟩
  else
    match Text.dropHead? "file://".toList repository with
    | some path => ⟨none, String.ofList path⟩
    | none =>
        if isRemoteLocation (String.ofList repository) then
          ⟨some (String.ofList (Text.dropTrailing (· == '/') repository)), modelDirectory⟩
        else ⟨none, String.ofList repository⟩

/-- The step that copies a remote repository. -/
def ModelSource.staging (source : ModelSource) : String :=
  match source.staged with
  | none => ""
  | some repository =>
      "mkdir -p " ++ modelDirectory ++ " && hadoop fs -copyToLocal " ++ repository ++ "/* " ++
        modelDirectory ++ " && "

/-- The step that copies the secrets. -/
def secretsStaging (spec : LaunchSpec) : String :=
  match spec.secretsPath with
  | none => ""
  | some path =>
      "mkdir -p /secrets && hadoop fs -copyToLocal " ++ path ++ " " ++ secretsFile ++ " && "

/-- The options of a process that serves requests. -/
def servingOptions (spec : LaunchSpec) : String :=
  let address := spec.bindAddress
  spec.ports.options ++ "--http-address=" ++ address ++ " --grpc-address=" ++ address ++
    " --metrics-address=" ++ address ++
    " --allow-cpu-metrics=false --allow-gpu-metrics=true --allow-metrics=true" ++
    " --metrics-interval-ms=1000 --model-load-thread-count=2 --strict-readiness=true"

/-- The options of a process that only computes, with its ports. -/
def computingOptions (spec : LaunchSpec) (ports : PortSet) : String :=
  let model :=
    match spec.rankModel with
    | none => ""
    | some model => "--load-model=" ++ model ++ " "
  ports.options ++ "--allow-http=false --allow-grpc=false --allow-metrics=false " ++
    "--log-info=false --log-warning=false --model-control-mode=explicit " ++ model ++
    "--model-load-thread-count=2"

/-- The part of the command that starts one rank of several. -/
def rankSegment (spec : LaunchSpec) (path : String) (rank : Nat) : Except LaunchError String := do
  let name := "rank" ++ Nat.repr rank
  let options ←
    if rank = 0 then pure spec.servingOptions
    else (spec.ports.forRank rank).map spec.computingOptions
  return "-n 1 tritonserver --id=" ++ name ++ " --model-repository=" ++ path ++
    " --backend-config=python,shm-region-prefix-name=" ++ name ++ "_ " ++ options

/-- The parts of the command for `count` ranks from one on, up to the first that has no ports. -/
def rankSegments (spec : LaunchSpec) (path : String) :
    (count rank : Nat) → Except LaunchError (List String)
  | 0, _ => .ok []
  | count + 1, rank => do
      let segment ← spec.rankSegment path rank
      let segments ← rankSegments spec path count (rank + 1)
      return segment :: segments

/-- The launch command of a specification. -/
def build (spec : LaunchSpec) : Except LaunchError String :=
  let size := spec.worldSize
  if size = 0 then
    .error (.noProcess spec.tensorParallelism.toNat spec.pipelineParallelism.toNat)
  else if UInt32.size ≤ size then .error (.worldTooLarge size)
  else
    let source := modelSource spec.modelRepository
    let staging := source.staging ++ spec.secretsStaging
    if size = 1 then
      .ok (staging ++ "tritonserver --model-repository=" ++ source.path ++ " " ++
        spec.servingOptions)
    else do
      let segments ← spec.rankSegments source.path size 0
      return staging ++ "mpirun --allow-run-as-root " ++ String.intercalate " : " segments

end LaunchSpec

end Fleet
