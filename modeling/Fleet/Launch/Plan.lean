import Fleet.Launch.Command

/-!
# Launch plans

The command is built and checked once; only the environment differs between replicas.
-/

namespace Fleet

/-- The command and the environment of one launch. -/
structure LaunchContext where
  command : String
  environment : SortedMap String
  deriving DecidableEq

/-- A text that is present and not empty. -/
def presentText (text : Option String) : Option String :=
  text.filter fun text => !text.isEmpty

/-- The environment of the container of a replica. The configured variables come last and win. -/
def containerEnvironment (image : String) (container : ContainerConfig) (replica : String) :
    SortedMap String :=
  let setting (name : String) (value : Option String) : List (String × String) :=
    match value with
    | none => []
    | some value => [(name, value)]
  let switch (name : String) (isOn : Bool) : List (String × String) :=
    setting name (if isOn then some "true" else none)
  SortedMap.ofList <|
    [("YARN_CONTAINER_RUNTIME_TYPE", "docker"),
      ("YARN_CONTAINER_RUNTIME_DOCKER_IMAGE", image),
      ("YARN_CONTAINER_RUNTIME_DOCKER_RUN_OVERRIDE_DISABLE", "true")] ++
    setting "YARN_CONTAINER_RUNTIME_DOCKER_CONTAINER_NETWORK" (presentText container.network) ++
    switch "YARN_CONTAINER_RUNTIME_DOCKER_RUN_PRIVILEGED_CONTAINER" container.privileged ++
    switch "YARN_CONTAINER_RUNTIME_DOCKER_DELAYED_REMOVAL" container.delayedRemoval ++
    setting "YARN_CONTAINER_RUNTIME_DOCKER_MOUNTS" (presentText container.mounts) ++
    setting "YARN_CONTAINER_RUNTIME_DOCKER_PORTS_MAPPING" (presentText container.ports) ++
    [("YARN_CONTAINER_RUNTIME_DOCKER_CONTAINER_HOSTNAME", replica),
      ("YARN_CONTAINER_RUNTIME_DOCKER_LOCAL_RESOURCE_MOUNTS", "true")] ++
    container.environment.entries

/-- All that is needed to launch any replica. -/
structure LaunchPlan where
  command : String
  image : String
  container : ContainerConfig
  deriving DecidableEq

namespace LaunchPlan

/-- The plan that a configuration gives. -/
def ofConfig (config : Config) : Except LaunchError LaunchPlan := do
  let command ← (LaunchSpec.ofConfig config.server).build
  return ⟨command, config.server.image, config.container⟩

/-- The plan that runs a command as it is, without settings of the container. -/
def ofCommand (command : String) : LaunchPlan where
  command := command
  image := ""
  container := {}

/-- The context in which a replica is launched. -/
def contextFor (plan : LaunchPlan) (replica : String) : LaunchContext where
  command := plan.command
  environment := containerEnvironment plan.image plan.container replica

end LaunchPlan

end Fleet
