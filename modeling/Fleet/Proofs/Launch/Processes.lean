import Fleet.Launch.Plan
import Fleet.Proofs.Launch
import Fleet.Proofs.Launch.Locations

/-!
# The processes of a launch command

A launch command stages files and then starts server processes, each of which is known by its
options. There is a process for each rank, with ports ten further than those of the rank before,
and only the first one serves requests. Wherever there is a command, as many accelerators are
requested as it has ranks.
-/

namespace Fleet

/-- A server process, as the options that it is started with. -/
structure ServerProcess where
  options : List (String × String)
  deriving DecidableEq

namespace ServerProcess

/-- The value that an option is given, if it is given one. -/
def value? (process : ServerProcess) (name : String) : Option String :=
  process.options.lookup name

/-- Whether the process answers on an interface. All of them are on unless they are turned off. -/
def Offers (process : ServerProcess) (interface : String) : Prop :=
  process.value? ("allow-" ++ interface) ≠ some "false"

instance (process : ServerProcess) : DecidablePred process.Offers :=
  fun _ => inferInstanceAs (Decidable (_ ≠ _))

/-- Options as they are written after the name of a program. -/
def writeOptions : List (String × String) → String
  | [] => ""
  | (name, value) :: rest => " --" ++ name ++ "=" ++ value ++ writeOptions rest

theorem writeOptions_append (first second : List (String × String)) :
    writeOptions (first ++ second) = writeOptions first ++ writeOptions second := by
  induction first with
  | nil => simp [writeOptions]
  | cons option first ih => simp [writeOptions, ih, String.append_assoc]

/-- The words that start the process. -/
def command (process : ServerProcess) : String :=
  "tritonserver" ++ writeOptions process.options

/-- The command that starts processes: a single one by itself, several ones together. -/
def commandOfAll : List ServerProcess → String
  | [process] => process.command
  | processes =>
      "mpirun --allow-run-as-root " ++
        String.intercalate " : " (processes.map fun process => "-n 1 " ++ process.command)

theorem commandOfAll_of_ne_one {processes : List ServerProcess} (several : processes.length ≠ 1) :
    commandOfAll processes =
      "mpirun --allow-run-as-root " ++
        String.intercalate " : " (processes.map fun process => "-n 1 " ++ process.command) := by
  match processes, several with
  | [], _ => rfl
  | [_], several => exact absurd rfl several
  | _ :: _ :: _, _ => rfl

end ServerProcess

namespace PortSet

/-- Ports are those of a rank: ten further than the base ports for each rank before it. -/
structure IsAtRank (ports moved : PortSet) (rank : Nat) : Prop where
  http : moved.http.toNat = ports.http.toNat + 10 * rank
  grpc : moved.grpc.toNat = ports.grpc.toNat + 10 * rank
  metrics : moved.metrics.toNat = ports.metrics.toNat + 10 * rank

theorem isAtRank_zero (ports : PortSet) : ports.IsAtRank ports 0 := ⟨rfl, rfl, rfl⟩

theorem shift_eq_ok_iff {offset rank : Nat} {base port : UInt16} :
    shift offset rank base = .ok port ↔ port.toNat = base.toNat + offset := by
  have small := port.toNat_lt
  unfold shift
  split
  · next fits => rw [Except.ok.injEq, ← UInt16.toNat_inj, UInt16.toNat_ofNat_of_lt' fits, eq_comm]
  · next exceeds =>
    simp only [UInt16.size] at exceeds
    simp only [reduceCtorEq, false_iff]
    omega

theorem isAtRank_of_forRank {ports moved : PortSet} {rank : Nat}
    (known : ports.forRank rank = .ok moved) : ports.IsAtRank moved rank := by
  unfold forRank at known
  dsimp only at known
  split at known
  · cases known
  · simp only [bind_eq_ok_iff, shift_eq_ok_iff, pure, Except.pure, Except.ok.injEq, stride] at known
    obtain ⟨http, httpMoved, grpc, grpcMoved, metrics, metricsMoved, rfl⟩ := known
    exact ⟨by rw [httpMoved, Nat.mul_comm], by rw [grpcMoved, Nat.mul_comm],
      by rw [metricsMoved, Nat.mul_comm]⟩

/-- The ports of a rank as options. The numbers are exact: they are not cut to 16 bits. -/
def optionsOfRank (ports : PortSet) (rank : Nat) : List (String × String) :=
  [("http-port", Nat.repr (ports.http.toNat + 10 * rank)),
    ("grpc-port", Nat.repr (ports.grpc.toNat + 10 * rank)),
    ("metrics-port", Nat.repr (ports.metrics.toNat + 10 * rank))]

end PortSet

namespace LaunchSpec

open ServerProcess

/-! ## What each rank is told -/

/-- The options that say what a process that serves requests measures and waits for. -/
def observingSwitches : List (String × String) :=
  [("allow-cpu-metrics", "false"), ("allow-gpu-metrics", "true"), ("allow-metrics", "true"),
    ("metrics-interval-ms", "1000"), ("model-load-thread-count", "2"), ("strict-readiness", "true")]

/-- The options of a process that serves requests, apart from its ports. -/
def servingSwitches (spec : LaunchSpec) : List (String × String) :=
  [("http-address", spec.bindAddress), ("grpc-address", spec.bindAddress),
    ("metrics-address", spec.bindAddress)] ++ observingSwitches

/-- The options that turn off what a process that only computes does not need. -/
def silencingSwitches : List (String × String) :=
  [("allow-http", "false"), ("allow-grpc", "false"), ("allow-metrics", "false"),
    ("log-info", "false"), ("log-warning", "false"), ("model-control-mode", "explicit")]

/-- The options of a process that only computes, apart from its ports. -/
def computingSwitches (spec : LaunchSpec) : List (String × String) :=
  silencingSwitches ++ (spec.rankModel.toList.map fun model => ("load-model", model)) ++
    [("model-load-thread-count", "2")]

/-- The process of a rank among several. Only the first one serves requests. -/
def rankProcess (spec : LaunchSpec) (path : String) (rank : Nat) : ServerProcess where
  options :=
    [("id", "rank" ++ Nat.repr rank), ("model-repository", path),
      ("backend-config", "python,shm-region-prefix-name=rank" ++ Nat.repr rank ++ "_")] ++
      (spec.ports.optionsOfRank rank ++
        if rank = 0 then spec.servingSwitches else spec.computingSwitches)

/-- The processes that a specification asks for, a single one without the number of its rank. -/
def processes (spec : LaunchSpec) : List ServerProcess :=
  let path := (modelSource spec.modelRepository).path
  if spec.worldSize = 1 then
    [⟨("model-repository", path) :: (spec.ports.optionsOfRank 0 ++ spec.servingSwitches)⟩]
  else (List.range spec.worldSize).map (spec.rankProcess path)

/-- The steps that stage files: the models, then the secrets. -/
def staging (spec : LaunchSpec) : String :=
  (modelSource spec.modelRepository).staging ++ spec.secretsStaging

theorem stagesFrom_staging (spec : LaunchSpec) :
    StagesFrom spec.modelRepository spec.secretsPath spec.staging := by
  refine ⟨_, copiesFrom_modelSource _, ?_⟩
  have target : " " ++ (secretsFile ++ " && ") = " /secrets/secrets.jks && " := by rfl
  rw [staging, secretsStaging]
  cases spec.secretsPath with
  | none => rfl
  | some path => simp only [String.append_assoc, target, Option.elim_some]

/-! ## Options as the command has them -/

section Written

variable (rest : String)

theorem writeOptions_optionsOfRank {ports moved : PortSet} {rank : Nat}
    (known : ports.IsAtRank moved rank) :
    writeOptions (ports.optionsOfRank rank) ++ (" " ++ rest) = " " ++ (moved.options ++ rest) := by
  -- The equation of a long text is slow to generate, so that its definition is put in as it is.
  delta PortSet.options
  rw [← String.toList_inj]
  simp only [PortSet.optionsOfRank, writeOptions, known.http, known.grpc, known.metrics,
    String.toList_append, List.append_assoc]
  rfl

theorem writeOptions_addresses (address : String) :
    writeOptions [("http-address", address), ("grpc-address", address),
        ("metrics-address", address)] ++ rest =
      " " ++ ("--http-address=" ++ (address ++ (" --grpc-address=" ++ (address ++
        (" --metrics-address=" ++ (address ++ rest)))))) := by
  rw [← String.toList_inj]
  simp only [writeOptions, String.toList_append, List.append_assoc]
  rfl

theorem writeOptions_observing :
    writeOptions observingSwitches =
      " --allow-cpu-metrics=false --allow-gpu-metrics=true --allow-metrics=true" ++
        " --metrics-interval-ms=1000 --model-load-thread-count=2 --strict-readiness=true" := by
  rfl

theorem writeOptions_silencing :
    writeOptions silencingSwitches ++ (" " ++ rest) =
      " " ++ ("--allow-http=false --allow-grpc=false --allow-metrics=false " ++
        ("--log-info=false --log-warning=false --model-control-mode=explicit " ++ rest)) := by
  simp only [← String.append_assoc]
  congr 1

theorem writeOptions_model (model : String) :
    writeOptions [("load-model", model)] ++ (" " ++ rest) =
      " " ++ ("--load-model=" ++ (model ++ (" " ++ rest))) := by
  rw [← String.toList_inj]
  simp only [writeOptions, String.toList_append, List.append_assoc]
  rfl

end Written

theorem writeOptions_serving (spec : LaunchSpec) :
    writeOptions (spec.ports.optionsOfRank 0 ++ spec.servingSwitches) =
      " " ++ spec.servingOptions := by
  delta servingOptions
  simp only [servingSwitches, writeOptions_append, writeOptions_addresses, writeOptions_observing,
    writeOptions_optionsOfRank _ spec.ports.isAtRank_zero, String.append_assoc]

theorem writeOptions_computing (spec : LaunchSpec) {rank : Nat} {ports : PortSet}
    (known : spec.ports.IsAtRank ports rank) :
    writeOptions (spec.ports.optionsOfRank rank ++ spec.computingSwitches) =
      " " ++ spec.computingOptions ports := by
  have last : writeOptions [("model-load-thread-count", "2")] =
      " " ++ "--model-load-thread-count=2" := by rfl
  delta computingOptions
  simp only [computingSwitches, writeOptions_append, last, String.append_assoc]
  cases spec.rankModel with
  | none =>
    simp only [Option.toList_none, List.map_nil, writeOptions, String.empty_append,
      writeOptions_silencing, writeOptions_optionsOfRank _ known]
  | some model =>
    simp only [Option.toList_some, List.map_cons, List.map_nil, writeOptions_model,
      writeOptions_silencing, writeOptions_optionsOfRank _ known, String.append_assoc]

/-! ## The command -/

theorem rankSegment_eq_ok {spec : LaunchSpec} {path segment : String} {rank : Nat}
    (known : spec.rankSegment path rank = .ok segment) :
    segment = "-n 1 " ++ (spec.rankProcess path rank).command := by
  have written : ∃ text,
      segment = "-n 1 tritonserver --id=" ++ ("rank" ++ Nat.repr rank) ++ " --model-repository=" ++
        path ++ " --backend-config=python,shm-region-prefix-name=" ++ ("rank" ++ Nat.repr rank) ++
        "_ " ++ text ∧
      writeOptions (spec.ports.optionsOfRank rank ++
        if rank = 0 then spec.servingSwitches else spec.computingSwitches) = " " ++ text := by
    unfold rankSegment at known
    split at known
    · next first =>
      obtain rfl := Except.ok.inj known
      refine ⟨spec.servingOptions, rfl, ?_⟩
      rw [if_pos first, first, writeOptions_serving]
    · next later =>
      cases moved : spec.ports.forRank rank with
      | error cause =>
        rw [moved] at known
        cases known
      | ok ports =>
        rw [moved] at known
        obtain rfl := Except.ok.inj known
        refine ⟨spec.computingOptions ports, rfl, ?_⟩
        rw [if_neg later, writeOptions_computing spec (PortSet.isAtRank_of_forRank moved)]
  obtain ⟨text, rfl, options⟩ := written
  rw [rankProcess, ServerProcess.command, writeOptions_append, options, ← String.toList_inj]
  simp only [writeOptions, String.toList_append, List.append_assoc]
  rfl

theorem rankSegments_eq_ok {spec : LaunchSpec} {path : String} {count rank : Nat}
    {segments : List String} (known : spec.rankSegments path count rank = .ok segments) :
    segments =
      (List.range' rank count).map fun rank => "-n 1 " ++ (spec.rankProcess path rank).command := by
  induction count generalizing rank segments with
  | zero =>
    obtain rfl := Except.ok.inj known
    rfl
  | succ count ih =>
    simp only [rankSegments, bind_eq_ok_iff, pure, Except.pure, Except.ok.injEq] at known
    obtain ⟨segment, here, others, later, rfl⟩ := known
    rw [List.range'_succ, List.map_cons, ← rankSegment_eq_ok here, ← ih later]

theorem length_processes (spec : LaunchSpec) : spec.processes.length = spec.worldSize := by
  unfold processes
  dsimp only
  split
  · next one => rw [one, List.length_singleton]
  · rw [List.length_map, List.length_range]

/-- A launch command stages files and then starts the processes of its specification. -/
theorem build_eq_ok {spec : LaunchSpec} {command : String} (built : spec.build = .ok command) :
    command = spec.staging ++ commandOfAll spec.processes := by
  unfold build at built
  dsimp only at built
  split at built
  · cases built
  split at built
  · cases built
  split at built
  · next one =>
    obtain rfl := Except.ok.inj built
    have start : "tritonserver --model-repository=" =
      "tritonserver" ++ (" --" ++ ("model-repository" ++ "=")) := by rfl
    rw [processes, if_pos one, commandOfAll, ServerProcess.command, writeOptions,
      writeOptions_serving, start]
    simp only [staging, String.append_assoc]
  · next several =>
    simp only [bind_eq_ok_iff, pure, Except.pure, Except.ok.injEq] at built
    obtain ⟨segments, ranks, rfl⟩ := built
    have length := spec.length_processes
    rw [commandOfAll_of_ne_one (by omega), processes, if_neg several, rankSegments_eq_ok ranks,
      List.range_eq_range', List.map_map]
    simp only [staging, String.append_assoc]
    rfl

end LaunchSpec

/-! ## Ranks and accelerators -/

/-- A process is one of several ranks: it is told each thing once, among them the number of its
rank, ports ten further than those of the rank before, and where the models are. It answers only if
it is the first one. -/
structure ServerProcess.IsOfRank (process : ServerProcess) (ports : PortSet) (path : String)
    (rank : Nat) : Prop where
  once : (process.options.map Prod.fst).Nodup
  id : process.value? "id" = some ("rank" ++ Nat.repr rank)
  http : process.value? "http-port" = some (Nat.repr (ports.http.toNat + 10 * rank))
  grpc : process.value? "grpc-port" = some (Nat.repr (ports.grpc.toNat + 10 * rank))
  metrics : process.value? "metrics-port" = some (Nat.repr (ports.metrics.toNat + 10 * rank))
  models : process.value? "model-repository" = some path
  offers : ∀ interface ∈ ["http", "grpc", "metrics"], process.Offers interface ↔ rank = 0

namespace LaunchSpec

theorem isOfRank_rankProcess (spec : LaunchSpec) (path : String) (rank : Nat) :
    (spec.rankProcess path rank).IsOfRank spec.ports path rank := by
  by_cases first : rank = 0
  · constructor <;>
      simp [rankProcess, first, PortSet.optionsOfRank, servingSwitches, observingSwitches,
        ServerProcess.value?, ServerProcess.Offers, List.lookup_cons]
  · cases model : spec.rankModel <;> constructor <;>
      simp [rankProcess, first, PortSet.optionsOfRank, computingSwitches, silencingSwitches, model,
        ServerProcess.value?, ServerProcess.Offers, List.lookup_cons]

theorem getElem?_processes {spec : LaunchSpec} (several : spec.worldSize ≠ 1) {rank : Nat}
    (below : rank < spec.worldSize) :
    spec.processes[rank]? =
      some (spec.rankProcess (modelSource spec.modelRepository).path rank) := by
  rw [processes, if_neg several, List.getElem?_map, List.getElem?_range below, Option.map_some]

end LaunchSpec

/-- The accelerators that are requested for a replica are its ranks, up to the greatest number of 32
bits. -/
theorem Config.accelerators_capability (config : Config) :
    config.capability.accelerators.toNat =
      min (LaunchSpec.ofConfig config.server).worldSize (UInt32.size - 1) := by
  have small : config.server.worldSize < UInt32.size :=
    Nat.lt_of_le_of_lt (Nat.min_le_right _ _) (by decide)
  exact UInt32.toNat_ofNat_of_lt' small

/-- The launch command and the request for resources agree. There is a command for one rank, and for
several ones exactly if the ports of the last rank fit into 16 bits. Wherever there is a command, an
accelerator is requested for each of its ranks; and for several ranks, the command copies the models
of a remote location and the secrets, and then starts them together, each with its own number and
ports. -/
theorem Config.command_agrees_with_request (config : Config) :
    let server := config.server
    let spec := LaunchSpec.ofConfig server
    let ranks := server.tensorParallelism.toNat * server.pipelineParallelism.toNat
    ((∃ command, spec.build = .ok command) ↔
      ranks = 1 ∨ 2 ≤ ranks ∧
        max server.httpPort.toNat (max server.grpcPort.toNat server.metricsPort.toNat) +
          10 * (ranks - 1) ≤ 65535) ∧
    ∀ command, spec.build = .ok command →
      config.capability.accelerators.toNat = ranks ∧
      (2 ≤ ranks →
        LaunchSpec.StagesFrom server.modelRepository server.secretsPath spec.staging ∧
        command = spec.staging ++ ("mpirun --allow-run-as-root " ++
          String.intercalate " : " (spec.processes.map fun process => "-n 1 " ++ process.command)) ∧
        spec.processes.length = ranks ∧
        ∀ rank < ranks, ∃ process, spec.processes[rank]? = some process ∧
          process.IsOfRank ⟨server.httpPort, server.grpcPort, server.metricsPort⟩
            (LaunchSpec.modelSource server.modelRepository).path rank) := by
  intro server spec ranks
  have fits := spec.build_isOk_iff
  change _ ↔ ranks = 1 ∨ 1 < ranks ∧ max server.httpPort.toNat
    (max server.grpcPort.toNat server.metricsPort.toNat) + (ranks - 1) * 10 < 65536 at fits
  refine ⟨by rw [fits]; omega, fun command built => ⟨?_, fun several => ?_⟩⟩
  · have requested := config.accelerators_capability
    change _ = min ranks 4294967295 at requested
    have fit := fits.mp ⟨command, built⟩
    omega
  · have length : spec.processes.length = ranks := spec.length_processes
    have started := LaunchSpec.build_eq_ok built
    rw [ServerProcess.commandOfAll_of_ne_one (by omega)] at started
    have number : spec.worldSize ≠ 1 := Nat.ne_of_gt several
    exact ⟨spec.stagesFrom_staging, started, length, fun rank below =>
      ⟨_, LaunchSpec.getElem?_processes number below, spec.isOfRank_rankProcess _ rank⟩⟩

/-- A configuration with two ranks, of which the second one has the last metrics port there is. -/
def twoRanks : Config :=
  { server := { tensorParallelism := 2, metricsPort := 65525 } }

theorem twoRanks_agree :
    ∃ command, (LaunchSpec.ofConfig twoRanks.server).build = .ok command ∧
      twoRanks.capability.accelerators.toNat = 2 ∧
      ∃ second, (LaunchSpec.ofConfig twoRanks.server).processes[1]? = some second ∧
        second.value? "metrics-port" = some "65535" ∧ ¬second.Offers "metrics" := by
  obtain ⟨exists_iff, agrees⟩ := twoRanks.command_agrees_with_request
  obtain ⟨command, built⟩ := exists_iff.mpr (by decide)
  obtain ⟨requested, started⟩ := agrees command built
  obtain ⟨second, among, told⟩ := (started (by decide)).2.2.2 1 (by decide)
  have silent : ¬second.Offers "metrics" := fun offers =>
    absurd ((told.offers "metrics" (by decide)).mp offers) (by decide)
  exact ⟨command, built, requested, second, among, told.metrics, silent⟩

end Fleet
