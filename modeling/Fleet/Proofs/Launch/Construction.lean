import Fleet.Proofs.Launch.Processes

/-!
# Specifications as a whole and setting by setting

A launch specification can be taken from a server configuration as a whole, or be made of its
settings one after the other, in any order. The commands are the same but for a path of secrets that
is given and empty: as a setting it counts as none, while in a configuration it is taken for a path,
so that the command copies from nowhere.
-/

namespace Fleet.LaunchSpec

/-- What can be set in a launch specification. -/
inductive Setting where
  | modelRepository
  | ports
  | bindAddress
  | parallelism
  | secretsPath
  | rankModel
  deriving DecidableEq

namespace Setting

variable (server : ServerConfig)

/-- The specification with one setting taken from a server configuration. -/
def take (spec : LaunchSpec) : Setting → LaunchSpec
  | modelRepository => spec.withModelRepository server.modelRepository
  | ports => spec.withPorts ⟨server.httpPort, server.grpcPort, server.metricsPort⟩
  | bindAddress => spec.withBindAddress server.bindAddress
  | parallelism => spec.withParallelism server.tensorParallelism server.pipelineParallelism
  | secretsPath => spec.withSecretsPath server.secretsPath
  | rankModel => spec.withRankModel server.rankModel

/-- A setting of the specification is that of the server configuration. -/
def IsTaken (spec : LaunchSpec) : Setting → Prop
  | modelRepository => spec.modelRepository = server.modelRepository
  | ports => spec.ports = ⟨server.httpPort, server.grpcPort, server.metricsPort⟩
  | bindAddress => spec.bindAddress = server.bindAddress
  | parallelism =>
      spec.tensorParallelism = server.tensorParallelism ∧
        spec.pipelineParallelism = server.pipelineParallelism
  | secretsPath => spec.secretsPath = presentText server.secretsPath
  | rankModel => spec.rankModel = server.rankModel

variable {server} {spec : LaunchSpec}

theorem isTaken_take_self (setting : Setting) :
    setting.IsTaken server (setting.take server spec) := by
  cases setting with
  | parallelism => exact ⟨rfl, rfl⟩
  | _ => rfl

/-- Taking a setting leaves the others as they are. -/
theorem isTaken_take {setting : Setting} (other : Setting) (taken : setting.IsTaken server spec) :
    setting.IsTaken server (other.take server spec) := by
  by_cases same : setting = other
  · rw [same]
    exact isTaken_take_self other
  · cases other <;> cases setting <;> first | exact taken | exact absurd rfl same

theorem isTaken_foldl {setting : Setting} {settings : List Setting}
    (taken : setting ∈ settings ∨ setting.IsTaken server spec) :
    setting.IsTaken server (settings.foldl (take server) spec) := by
  induction settings generalizing spec with
  | nil => exact taken.resolve_left List.not_mem_nil
  | cons first rest ih =>
    rw [List.foldl_cons]
    apply ih
    rcases taken with among | taken
    · rcases List.mem_cons.mp among with rfl | later
      · exact Or.inr (isTaken_take_self _)
      · exact Or.inl later
    · exact Or.inr (isTaken_take first taken)

end Setting

/-- The specification that is made by taking settings from a server configuration in turn. -/
def assemble (server : ServerConfig) (settings : List Setting) : LaunchSpec :=
  settings.foldl (Setting.take server) {}

/-- Once all settings are taken, the specification is that of the configuration, without an empty
path of secrets. -/
theorem assemble_eq {server : ServerConfig} {settings : List Setting}
    (all : ∀ setting, setting ∈ settings) :
    assemble server settings =
      { ofConfig server with secretsPath := presentText server.secretsPath } := by
  have taken (setting : Setting) : setting.IsTaken server (assemble server settings) :=
    Setting.isTaken_foldl (Or.inl (all setting))
  have repository := taken .modelRepository
  have ports := taken .ports
  have address := taken .bindAddress
  have parallelism := taken .parallelism
  have secrets := taken .secretsPath
  have model := taken .rankModel
  cases spec : assemble server settings
  simp only [spec, Setting.IsTaken] at repository ports address parallelism secrets model
  simp only [ofConfig, repository, ports, address, parallelism, secrets, model]

theorem presentText_of_ne_empty {text : Option String} (present : text ≠ some "") :
    presentText text = text := by
  cases text with
  | none => rfl
  | some text => simpa [presentText] using present

/-! ## Secrets in the command -/

section Secrets

variable (spec : LaunchSpec) (path : Option String)

theorem rankSegments_withSecrets (models : String) (count rank : Nat) :
    { spec with secretsPath := path }.rankSegments models count rank =
      spec.rankSegments models count rank := by
  induction count generalizing rank with
  | zero => rfl
  | succ count ih =>
    rw [rankSegments, rankSegments, ih]
    rfl

/-- The path of secrets has no part in whether there is a command, and none in the error. -/
theorem build_withSecrets_eq_error_iff (error : LaunchError) :
    { spec with secretsPath := path }.build = .error error ↔ spec.build = .error error := by
  have size : { spec with secretsPath := path }.worldSize = spec.worldSize := rfl
  simp only [build, rankSegments_withSecrets, size]
  by_cases none : spec.worldSize = 0
  · simp only [if_pos none]
  by_cases tooMany : UInt32.size ≤ spec.worldSize
  · simp only [if_neg none, if_pos tooMany]
  by_cases one : spec.worldSize = 1
  · simp only [if_neg none, if_neg tooMany, if_pos one, reduceCtorEq]
  simp only [if_neg none, if_neg tooMany, if_neg one]
  cases spec.rankSegments (modelSource spec.modelRepository).path spec.worldSize 0 with
  | error cause => rfl
  | ok segments => simp only [bind, Except.bind, pure, Except.pure, reduceCtorEq]

/-- The path of secrets has a part in what is staged, and none in what is started. -/
theorem build_withSecrets_of_ok {command : String} (built : spec.build = .ok command) :
    { spec with secretsPath := path }.build =
      .ok ({ spec with secretsPath := path }.staging ++
        ServerProcess.commandOfAll spec.processes) := by
  cases changed : { spec with secretsPath := path }.build with
  | error cause =>
    rw [build_withSecrets_eq_error_iff, built] at changed
    cases changed
  | ok other =>
    rw [build_eq_ok changed]
    rfl

end Secrets

/-- The step that copies the secrets, for a path that is given and empty. -/
def emptyCopy : String :=
  "mkdir -p /secrets && hadoop fs -copyToLocal  /secrets/secrets.jks && "

theorem staging_of_empty {spec : LaunchSpec} (empty : spec.secretsPath = some "") :
    spec.staging = (modelSource spec.modelRepository).staging ++ emptyCopy := by
  have copied : "mkdir -p /secrets && hadoop fs -copyToLocal " ++ "" ++ " " ++ secretsFile ++
    " && " = emptyCopy := by rfl
  simp only [staging, secretsStaging, empty, copied]

theorem staging_of_none {spec : LaunchSpec} (none : spec.secretsPath = none) :
    spec.staging = (modelSource spec.modelRepository).staging := by
  simp only [staging, secretsStaging, none, String.append_empty]

/-- Commands that differ by an inner part are different. -/
theorem append_ne_append_of_ne_empty {first inner last : String} (present : inner ≠ "") :
    first ++ (inner ++ last) ≠ first ++ last := by
  intro same
  have lengths := congrArg String.length same
  simp only [String.length_append] at lengths
  have nonempty : inner.length ≠ 0 := by simpa [String.length_eq_zero_iff] using present
  omega

/-- A specification taken as a whole has the same result as one that is made of all its settings,
exactly if the path of secrets is not given as an empty one, or if there is no command at all. With
an empty path, the command of the former copies from that path once the models are staged. -/
theorem construction_immaterial_iff (server : ServerConfig) {settings : List Setting}
    (all : ∀ setting, setting ∈ settings) :
    ((ofConfig server).build = (assemble server settings).build ↔
      server.secretsPath ≠ some "" ∨ ∀ command, (ofConfig server).build ≠ .ok command) ∧
    (server.secretsPath = some "" → ∀ command, (ofConfig server).build = .ok command →
      ∃ models launch, command = models ++ (emptyCopy ++ launch) ∧
        models = (modelSource server.modelRepository).staging ∧
        (assemble server settings).build = .ok (models ++ launch)) := by
  rw [assemble_eq all]
  by_cases empty : server.secretsPath = some ""
  · have absent : presentText server.secretsPath = none := by
      rw [empty]
      rfl
    rw [absent]
    cases built : (ofConfig server).build with
    | error cause =>
      have same := (build_withSecrets_eq_error_iff (ofConfig server) none cause).mpr built
      refine ⟨⟨fun _ => Or.inr ?_, fun _ => same.symm⟩, fun _ => ?_⟩
      all_goals
        intro command failed
        cases failed
    | ok command =>
      have started := build_eq_ok built
      have made := build_withSecrets_of_ok (ofConfig server) none built
      rw [staging_of_empty empty, String.append_assoc] at started
      rw [staging_of_none rfl] at made
      refine ⟨⟨fun same => ?_, fun either => ?_⟩, fun _ other same => ?_⟩
      · rw [made, started] at same
        exact absurd (Except.ok.inj same) (append_ne_append_of_ne_empty (by decide))
      · exact absurd rfl (either.resolve_left (not_not_intro empty) command)
      · obtain rfl := Except.ok.inj same
        exact ⟨_, _, started, rfl, made⟩
  · rw [presentText_of_ne_empty empty]
    exact ⟨⟨fun _ => Or.inl empty, fun _ => rfl⟩, fun given => absurd given empty⟩

/-- All settings, some of them twice. -/
def everySetting : List Setting :=
  [.rankModel, .secretsPath, .ports, .modelRepository, .ports, .parallelism, .bindAddress,
    .secretsPath]

theorem mem_everySetting (setting : Setting) : setting ∈ everySetting := by
  cases setting <;> decide

/-- A server with two ranks and secrets. -/
def secretServer : ServerConfig :=
  { tensorParallelism := 2, secretsPath := some "hdfs:///secrets.jks", rankModel := none }

theorem secretServer_made_either_way :
    (∀ setting, setting ∈ everySetting) ∧
      (ofConfig secretServer).build = (assemble secretServer everySetting).build :=
  ⟨mem_everySetting, (construction_immaterial_iff secretServer mem_everySetting).1.mpr
    (Or.inl (by decide))⟩

/-- A path that is given and empty makes a difference: a command copies from it only if the
specification is taken as a whole. -/
theorem empty_path_matters :
    (ofConfig { secretsPath := some "" }).build ≠
      (assemble { secretsPath := some "" } everySetting).build := by
  decide +kernel

end Fleet.LaunchSpec
