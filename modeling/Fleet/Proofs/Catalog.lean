import Fleet.Catalog
import Fleet.Proofs.Launch.Processes

/-!
# The catalog and the launch command

The catalog lists the models that the servers are to read, so that both have to take the location of
the repository for the same place. They do for every remote location, and for a local one that is
not empty and has no outer blanks. For any other one, the launch command goes by the location
without its outer blanks, or by the default directory where nothing is left, while the catalog goes
by the location as it is written.
-/

namespace Fleet

namespace Catalog

open LaunchSpec

/-- What the catalog takes a location for, by the location as it is written. -/
inductive OfLocation (location : String) : Catalog → Prop where
  | remote (written : isRemoteLocation location = true) : OfLocation location (.remote location)
  | file (path : List Char) (written : location.toList = "file://".toList ++ path) :
      OfLocation location (.directory (String.ofList path))
  | path (notFile : ∀ path, location.toList ≠ "file://".toList ++ path)
      (notRemote : isRemoteLocation location = false) : OfLocation location (.directory location)

theorem ofLocation_ofLocation (location : String) : OfLocation location (ofLocation location) := by
  unfold ofLocation
  split
  · next remote => exact .remote remote
  · next notRemote =>
    split
    · next path file => exact .file path (Text.dropHead?_eq_some_iff.mp file)
    · next notFile =>
      refine .path (fun path same => ?_) (Bool.eq_false_of_not_eq_true notRemote)
      rw [same, Text.dropHead?_append] at notFile
      cases notFile

/-- A catalog lists what the servers read: where models are staged, it lists no directory, and
where they are not, it lists the directory that the servers read. -/
def Lists (source : ModelSource) : Catalog → Prop
  | remote _ => source.staged.isSome = true
  | directory path => source = ⟨none, path⟩

theorem lists_directory {source : ModelSource} {path : String} :
    (directory path).Lists source ↔ ¬source.staged.isSome = true ∧ source.path = path := by
  cases source
  simp [Lists]

/-- A location that is a part of itself without outer blanks has none. -/
theorem trim_eq_of_append {location start : List Char}
    (trimmed : Text.trim location = start ++ location) : Text.trim location = location := by
  have shorter := (Text.trim_infix location).length_le
  rw [trimmed, List.length_append] at shorter
  obtain rfl := List.eq_nil_of_length_eq_zero (by omega : start.length = 0)
  exact trimmed

section Taken

variable {location : String} {source : ModelSource} (taken : source.OfLocation location)
include taken

theorem lists_of_remote (remote : isRemoteLocation location = true) :
    (Catalog.remote location).Lists source := by
  have trimmed := isRemoteLocation_trim remote
  cases taken with
  | default nothing =>
    rw [nothing] at trimmed
    exact absurd trimmed (by decide)
  | file path file =>
    rw [file, isRemoteLocation_of_file String.toList_ofList] at trimmed
    cases trimmed
  | remote => rfl
  | path something notFile notRemote =>
    rw [trimmed] at notRemote
    cases notRemote

theorem lists_iff_of_file {path : List Char} (file : location.toList = "file://".toList ++ path) :
    (directory (String.ofList path)).Lists source ↔
      Text.trim location.toList = location.toList := by
  have kept := trim_file path
  rw [← file] at kept
  cases taken with
  | default nothing =>
    rw [nothing] at kept
    cases kept
  | file other trimmed =>
    rw [Lists, ModelSource.mk.injEq, String.ofList_inj, trimmed, file, List.append_cancel_left_eq]
    simp only [true_and]
  | remote trimmed =>
    rw [kept, isRemoteLocation_of_file String.toList_ofList] at trimmed
    cases trimmed
  | path something notFile notRemote => exact absurd kept (notFile _)

theorem lists_iff_of_path (notFile : ∀ path, location.toList ≠ "file://".toList ++ path)
    (notRemote : isRemoteLocation location = false) :
    (directory location).Lists source ↔
      location ≠ "" ∧ Text.trim location.toList = location.toList := by
  cases taken with
  | default nothing =>
    constructor
    · intro same
      obtain rfl : modelDirectory = location := (ModelSource.mk.inj same).2
      exact absurd nothing (by decide)
    · rintro ⟨given, trimmed⟩
      rw [nothing, eq_comm, String.toList_eq_nil_iff] at trimmed
      exact absurd trimmed given
  | file path trimmed =>
    constructor
    · intro same
      obtain rfl : String.ofList path = location := (ModelSource.mk.inj same).2
      rw [String.toList_ofList] at trimmed notFile
      exact absurd ((trim_eq_of_append trimmed).symm.trans trimmed) (notFile _)
    · rintro ⟨-, same⟩
      exact absurd (same.symm.trans trimmed) (notFile path)
  | remote trimmed =>
    constructor
    · intro same
      cases (ModelSource.mk.inj same).1
    · rintro ⟨-, same⟩
      rw [same, String.ofList_toList, notRemote] at trimmed
      cases trimmed
  | path something =>
    have given : location ≠ "" := by
      rintro rfl
      exact something rfl
    rw [Lists, ModelSource.mk.injEq, ← String.toList_inj, String.toList_ofList]
    simp only [true_and, given, ne_eq, not_false_eq_true]

end Taken

/-- The catalog lists what the servers read exactly if the location is remote, or if it is not
empty and has no outer blanks. -/
theorem lists_iff (location : String) :
    (ofLocation location).Lists (modelSource location) ↔
      isRemoteLocation location = true ∨
        location ≠ "" ∧ Text.trim location.toList = location.toList := by
  have taken := modelSource_ofLocation location
  have listed := ofLocation_ofLocation location
  generalize ofLocation location = catalog at listed
  cases listed with
  | remote remote => simp only [remote, lists_of_remote taken remote, true_or]
  | file path file =>
    have given : location ≠ "" := by
      rintro rfl
      cases file
    simp only [lists_iff_of_file taken file, isRemoteLocation_of_file file, given, ne_eq,
      not_false_eq_true, true_and, Bool.false_eq_true, false_or]
  | path notFile notRemote =>
    simp only [lists_iff_of_path taken notFile notRemote, notRemote, Bool.false_eq_true, false_or]

end Catalog

/-! ## What the command says -/

namespace LaunchSpec

open ServerProcess

variable {spec : LaunchSpec} {location command : String}

/-- The first step of a command copies all that is in a repository into the directory of models,
where the location of the repository has lost its outer blanks and trailing slashes. -/
def CopiesModels (location command : String) : Prop :=
  ∃ repository slashes, Text.trim location.toList = repository ++ slashes ∧
    (∀ slash ∈ slashes, slash = '/') ∧
    "mkdir -p /models && hadoop fs -copyToLocal ".toList ++ repository ++
      "/* /models && ".toList <+: command.toList

/-- What a command starts with if it does not copy models: copying secrets, one process, or several
processes. -/
def otherStarts : List String :=
  ["mkdir -p /secrets && hadoop fs -copyToLocal ", "tritonserver", "mpirun --allow-run-as-root "]

theorem not_copiesModels {start : String} (other : start ∈ otherStarts) (rest : String) :
    ¬CopiesModels location (start ++ rest) := by
  rintro ⟨repository, slashes, -, -, copied⟩
  simp only [otherStarts, List.mem_cons, List.not_mem_nil, or_false] at other
  rcases other with rfl | rfl | rfl <;> simp at copied

theorem exists_start_commandOfAll (processes : List ServerProcess) :
    ∃ start ∈ otherStarts, ∃ rest, commandOfAll processes = start ++ rest := by
  by_cases one : processes.length = 1
  · obtain ⟨process, rfl⟩ := List.length_eq_one_iff.mp one
    exact ⟨"tritonserver", by decide, _, rfl⟩
  · exact ⟨"mpirun --allow-run-as-root ", by decide, _, commandOfAll_of_ne_one one⟩

theorem exists_start_secretsStaging (spec : LaunchSpec) (processes : List ServerProcess) :
    ∃ start ∈ otherStarts, ∃ rest,
      spec.secretsStaging ++ commandOfAll processes = start ++ rest := by
  unfold secretsStaging
  split
  · rw [String.empty_append]
    exact exists_start_commandOfAll processes
  · next path _ =>
    exact ⟨"mkdir -p /secrets && hadoop fs -copyToLocal ", by decide,
      path ++ (" " ++ (secretsFile ++ (" && " ++ commandOfAll processes))),
      by simp only [String.append_assoc]⟩

/-- The command copies models first exactly if there are models to stage. -/
theorem copiesModels_iff (built : spec.build = .ok command) :
    CopiesModels spec.modelRepository command ↔
      (modelSource spec.modelRepository).staged.isSome = true := by
  obtain ⟨start, other, rest, same⟩ := exists_start_secretsStaging spec spec.processes
  rw [build_eq_ok built, staging]
  have taken := modelSource_ofLocation spec.modelRepository
  generalize modelSource spec.modelRepository = source at taken
  cases taken with
  | remote =>
    simp only [Option.isSome_some, iff_true]
    obtain ⟨slashes, trimmed, all⟩ :=
      Text.exists_eq_dropTrailing_append (· == '/') (Text.trim spec.modelRepository.toList)
    refine ⟨_, slashes, trimmed, fun slash among => beq_iff_eq.mp (all slash among),
      spec.secretsStaging.toList ++ (commandOfAll spec.processes).toList, ?_⟩
    simp only [ModelSource.staging_staged, String.toList_append, String.toList_ofList,
      List.append_assoc]
  | _ =>
    rw [ModelSource.staging, String.empty_append, same]
    simp only [not_copiesModels other, Option.isSome_none, Bool.false_eq_true]

/-- Every process of a command is told the same directory of models. -/
theorem value?_models_of_mem {process : ServerProcess} (among : process ∈ spec.processes) :
    process.value? "model-repository" = some (modelSource spec.modelRepository).path := by
  unfold processes at among
  dsimp only at among
  split at among
  · obtain rfl := List.mem_singleton.mp among
    rfl
  · obtain ⟨rank, -, rfl⟩ := List.mem_map.mp among
    exact (spec.isOfRank_rankProcess _ rank).models

theorem exists_mem_processes (built : spec.build = .ok command) :
    ∃ process, process ∈ spec.processes := by
  have ranks := spec.build_isOk_iff.mp ⟨command, built⟩
  apply List.exists_mem_of_length_pos
  rw [length_processes]
  omega

end LaunchSpec

/-- The catalog and a launch command agree exactly if the location is remote, or if it is not empty
and has no outer blanks: there is no directory to list exactly if the command copies models first,
and a directory that is listed is the one that each process of the command is told. -/
theorem Catalog.agrees_with_command_iff {spec : LaunchSpec} {command : String}
    (built : spec.build = .ok command) :
    command = spec.staging ++ ServerProcess.commandOfAll spec.processes ∧
    ((((∃ location, ofLocation spec.modelRepository = .remote location) ↔
          LaunchSpec.CopiesModels spec.modelRepository command) ∧
        ∀ path, ofLocation spec.modelRepository = .directory path →
          ∀ process ∈ spec.processes, process.value? "model-repository" = some path) ↔
      isRemoteLocation spec.modelRepository = true ∨
        spec.modelRepository ≠ "" ∧
          Text.trim spec.modelRepository.toList = spec.modelRepository.toList) := by
  refine ⟨LaunchSpec.build_eq_ok built, ?_⟩
  rw [← lists_iff, LaunchSpec.copiesModels_iff built]
  cases ofLocation spec.modelRepository with
  | remote location =>
    simp only [remote.injEq, exists_eq', true_iff, reduceCtorEq, false_implies, implies_true,
      and_true, Lists]
  | directory path =>
    simp only [reduceCtorEq, exists_false, false_iff, directory.injEq, forall_eq', lists_directory]
    refine and_congr_right fun unstaged => ⟨fun read => ?_, fun same process among => ?_⟩
    · obtain ⟨process, among⟩ := LaunchSpec.exists_mem_processes built
      have told := LaunchSpec.value?_models_of_mem among
      exact Option.some.inj (told.symm.trans (read process among))
    · rw [LaunchSpec.value?_models_of_mem among, same]

/-- A specification of two ranks that read a directory, which is given with its scheme. -/
def localSpec : LaunchSpec :=
  { modelRepository := "file:///srv/models", tensorParallelism := 2 }

theorem localSpec_agrees :
    ∃ command, localSpec.build = .ok command ∧
      ¬LaunchSpec.CopiesModels localSpec.modelRepository command ∧
      Catalog.ofLocation localSpec.modelRepository = .directory "/srv/models" ∧
      ∀ process ∈ localSpec.processes, process.value? "model-repository" = some "/srv/models" := by
  obtain ⟨command, built⟩ := localSpec.build_isOk_iff.mpr (by decide)
  have listed : Catalog.ofLocation localSpec.modelRepository = .directory "/srv/models" := by
    decide +kernel
  have trimmed : localSpec.modelRepository ≠ "" ∧
      Text.trim localSpec.modelRepository.toList = localSpec.modelRepository.toList := by
    decide +kernel
  obtain ⟨copies, read⟩ := (Catalog.agrees_with_command_iff built).2.mpr (Or.inr trimmed)
  refine ⟨command, built, fun copied => ?_, listed, read "/srv/models" listed⟩
  obtain ⟨location, remote⟩ := copies.mpr copied
  rw [listed] at remote
  cases remote

/-- A blank in front of a remote location makes the catalog list a directory, while the command
copies the models from there. -/
theorem padded_location_disagrees :
    let spec : LaunchSpec := { modelRepository := " hdfs:///models" }
    Catalog.ofLocation spec.modelRepository = .directory " hdfs:///models" ∧
      ∃ command, spec.build = .ok command ∧
        LaunchSpec.CopiesModels spec.modelRepository command := by
  intro spec
  obtain ⟨command, built⟩ := spec.build_isOk_iff.mpr (by decide)
  have staged : (LaunchSpec.modelSource spec.modelRepository).staged.isSome = true := by
    decide +kernel
  exact ⟨by decide +kernel, command, built, (LaunchSpec.copiesModels_iff built).mpr staged⟩

end Fleet
