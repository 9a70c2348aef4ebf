import Fleet.CommandLine.Arguments
import Fleet.Binary64.Reading
import Fleet.Config.Basic
import Fleet.Text.Digits

/-!
# Overrides of a configuration

A configuration is layered: the stock values, then the file, then what the command line and the
environment say. An option beats the variable that stands in for it.
-/

namespace Fleet.CommandLine

/-- What the command line and the environment say about the configuration. -/
structure Overrides where
  /-- The file that holds the configuration. -/
  file : Option String := none
  modelRepository : Option String := none
  image : Option String := none
  httpPort : Option UInt16 := none
  grpcPort : Option UInt16 := none
  metricsPort : Option UInt16 := none
  apiPort : Option UInt16 := none
  /-- The address of both the replicas and the status surface. -/
  bindAddress : Option String := none
  token : Option String := none
  memory : Option UInt64 := none
  processors : Option UInt32 := none
  tensorParallelism : Option UInt32 := none
  pipelineParallelism : Option UInt32 := none
  secretsPath : Option String := none
  placementTag : Option String := none
  upThreshold : Option Binary64 := none
  downThreshold : Option Binary64 := none
  minimum : Option UInt32 := none
  maximum : Option UInt32 := none
  cooldown : Option String := none
  /-- Further variables of the containers. -/
  environment : List (String × String) := []

/-- The options that override a field, each with the variable that stands in for it. -/
def overrideVariables : List (String × String) :=
  [("config", "TARN_CONFIG"), ("model-repository", "MODEL_REPOSITORY"), ("image", "TRITON_IMAGE"),
    ("http-port", "TRITON_PORT"), ("grpc-port", "GRPC_PORT"), ("metrics-port", "METRICS_PORT"),
    ("api-port", "AM_PORT"), ("bind-address", "BIND_ADDRESS"), ("token", "TARN_TOKEN"),
    ("memory-mb", "CONTAINER_MEMORY"), ("vcores", "CONTAINER_VCORES"),
    ("tensor-parallelism", "TENSOR_PARALLELISM"),
    ("pipeline-parallelism", "PIPELINE_PARALLELISM"), ("secrets-path", "SECRETS_PATH"),
    ("placement-tag", "PLACEMENT_TAG"), ("scale-up-threshold", "SCALE_UP_THRESHOLD"),
    ("scale-down-threshold", "SCALE_DOWN_THRESHOLD"), ("min-replicas", "MIN_CONTAINERS"),
    ("max-replicas", "MAX_CONTAINERS"), ("cooldown", "SCALE_COOLDOWN")]

/-- The forms of the options that override a field. -/
def overrideForms : List OptionForm :=
  (overrideVariables.map fun (name, _) =>
    { name, letter := if name = "config" then some 'c' else none }) ++
    [{ name := "env", isRepeatable := true }]

/-- The options of a command line and the variables of its environment. -/
structure Given where
  options : List (String × String)
  environment : List (String × String)

namespace Given

/-- The text given for an option, by itself or by its variable. -/
def text? (given : Given) (name : String) : Option String :=
  (given.options.lookup name).or
    ((overrideVariables.lookup name).bind fun variableName => given.environment.lookup variableName)

/-- The value given for an option, if one is given; `none` where its text cannot be read. -/
def value? {Value : Type} (given : Given) (name : String) (read : String → Option Value) :
    Option (Option Value) :=
  match given.text? name with
  | none => some none
  | some text => (read text).map some

end Given

/-- A number of at most 32 bits below a limit. Zero may have a minus sign. -/
def readBelow? (limit : Nat) (text : String) : Option Nat :=
  match text.toList with
  | '-' :: digits => (Text.readDigits? digits).filter (· = 0)
  | characters => Text.readUnsigned? limit characters

/-- A port. -/
def readPort? (text : String) : Option UInt16 :=
  (readBelow? UInt16.size text).map .ofNat

/-- A count of 32 bits. -/
def readCount? (text : String) : Option UInt32 :=
  (readBelow? UInt32.size text).map .ofNat

/-- An amount of 64 bits. -/
def readAmount? (text : String) : Option UInt64 :=
  (Text.readUnsigned? UInt64.size text.toList).map .ofNat

/-- A threshold. -/
def readThreshold? (text : String) : Option Binary64 :=
  Binary64.ofText? text.toList

/-- The name of a file, which is not empty. -/
def readFileName? (text : String) : Option String :=
  if text.isEmpty then none else some text

/-- A variable of the containers, written as its name, an equals sign and its value. -/
def readBinding? (text : String) : Option (String × String) := do
  let (name, value) ← Text.cutAt? ['='] text.toList
  if name.isEmpty then none else some (String.ofList name, String.ofList value)

/-- What is said about the configuration, if every value can be read. -/
def Overrides.ofGiven? (given : Given) : Option Overrides := do
  let bindings := (given.options.filter (·.1 = "env")).map Prod.snd
  return {
    file := ← given.value? "config" readFileName?
    modelRepository := ← given.value? "model-repository" some
    image := ← given.value? "image" some
    httpPort := ← given.value? "http-port" readPort?
    grpcPort := ← given.value? "grpc-port" readPort?
    metricsPort := ← given.value? "metrics-port" readPort?
    apiPort := ← given.value? "api-port" readPort?
    bindAddress := ← given.value? "bind-address" some
    token := ← given.value? "token" some
    memory := ← given.value? "memory-mb" readAmount?
    processors := ← given.value? "vcores" readCount?
    tensorParallelism := ← given.value? "tensor-parallelism" readCount?
    pipelineParallelism := ← given.value? "pipeline-parallelism" readCount?
    secretsPath := ← given.value? "secrets-path" some
    placementTag := ← given.value? "placement-tag" some
    upThreshold := ← given.value? "scale-up-threshold" readThreshold?
    downThreshold := ← given.value? "scale-down-threshold" readThreshold?
    minimum := ← given.value? "min-replicas" readCount?
    maximum := ← given.value? "max-replicas" readCount?
    cooldown := ← given.value? "cooldown" some
    environment := ← bindings.mapM readBinding? }

/-- The configuration with what is said about it in place of its own values. -/
def Overrides.apply (overrides : Overrides) (config : Config) : Config where
  server :=
    { config.server with
      modelRepository := overrides.modelRepository.getD config.server.modelRepository
      image := overrides.image.getD config.server.image
      httpPort := overrides.httpPort.getD config.server.httpPort
      grpcPort := overrides.grpcPort.getD config.server.grpcPort
      metricsPort := overrides.metricsPort.getD config.server.metricsPort
      bindAddress := overrides.bindAddress.getD config.server.bindAddress
      tensorParallelism := overrides.tensorParallelism.getD config.server.tensorParallelism
      pipelineParallelism := overrides.pipelineParallelism.getD config.server.pipelineParallelism
      secretsPath := overrides.secretsPath.or config.server.secretsPath }
  container :=
    { config.container with
      memory := overrides.memory.getD config.container.memory
      processors := overrides.processors.getD config.container.processors
      placementTag := overrides.placementTag.getD config.container.placementTag
      environment := overrides.environment.foldl
        (fun environment (name, value) => environment.insert name value)
        config.container.environment }
  scaling :=
    { upThreshold := overrides.upThreshold.getD config.scaling.upThreshold
      downThreshold := overrides.downThreshold.getD config.scaling.downThreshold
      minimum := overrides.minimum.getD config.scaling.minimum
      maximum := overrides.maximum.getD config.scaling.maximum
      cooldown := overrides.cooldown.getD config.scaling.cooldown }
  controller := config.controller
  api :=
    { config.api with
      port := overrides.apiPort.getD config.api.port
      bindAddress := overrides.bindAddress.getD config.api.bindAddress
      token := overrides.token.or config.api.token }
  cluster := config.cluster

end Fleet.CommandLine
