import Fleet.Launch.Command
import Fleet.Proofs.Text

/-!
# Locations of models

A location names a remote repository, a file or a directory, whatever blanks stand around it. The
models of a remote one are copied before a server reads them; those of any other one are read where
they are.
-/

namespace Fleet

/-! ## Remote locations -/

/-- The scheme of a remote location: some letters, digits and signs, but not the word `file`. -/
structure IsRemoteScheme (scheme : List Char) : Prop where
  nonempty : scheme ≠ []
  notFile : scheme ≠ "file".toList
  plain : ∀ character ∈ scheme,
    Text.isAlphanumeric character || character == '+' || character == '-' || character == '.'

theorem isRemoteLocation_iff {location : String} :
    isRemoteLocation location = true ↔
      ∃ scheme rest, location.toList = scheme ++ ("://".toList ++ rest) ∧
        IsRemoteScheme scheme := by
  unfold isRemoteLocation
  constructor
  · intro remote
    cases cut : Text.cutAt? "://".toList location.toList with
    | none =>
      rw [cut] at remote
      cases remote
    | some parts =>
      obtain ⟨scheme, rest⟩ := parts
      simp only [cut, Bool.and_eq_true, Bool.not_eq_true', List.isEmpty_eq_false_iff, bne_iff_ne,
        List.all_eq_true] at remote
      exact ⟨scheme, rest, Text.eq_of_cutAt? cut, remote.1.1, remote.1.2, remote.2⟩
  · rintro ⟨scheme, rest, same, nonempty, notFile, plain⟩
    have free : ':' ∉ scheme := fun among => absurd (plain ':' among) (by decide)
    have cut : Text.cutAt? "://".toList location.toList = some (scheme, rest) := by
      rw [same]
      exact Text.cutAt?_append free ['/', '/'] rest
    simp only [cut, Bool.and_eq_true, Bool.not_eq_true', List.isEmpty_eq_false_iff, bne_iff_ne,
      List.all_eq_true]
    exact ⟨⟨nonempty, notFile⟩, plain⟩

theorem isRemoteLocation_of_file {location : String} {path : List Char}
    (file : location.toList = "file://".toList ++ path) : isRemoteLocation location = false := by
  have cut : Text.cutAt? "://".toList location.toList = some ("file".toList, path) := by
    rw [file]
    rfl
  rw [isRemoteLocation, cut]
  rfl

theorem IsRemoteScheme.visible {scheme : List Char} (remote : IsRemoteScheme scheme)
    {character : Char} (among : character ∈ scheme) : Text.isBlank character = false := by
  have plain := remote.plain character among
  simp only [Bool.or_eq_true, beq_iff_eq] at plain
  rcases plain with ((letter | rfl) | rfl) | rfl
  · exact Text.isBlank_of_isAlphanumeric letter
  all_goals decide

/-- A remote location can have outer blanks at its end only, and it is remote without them too. -/
theorem isRemoteLocation_trim {location : String} (remote : isRemoteLocation location = true) :
    isRemoteLocation (String.ofList (Text.trim location.toList)) = true := by
  obtain ⟨scheme, rest, same, isScheme⟩ := isRemoteLocation_iff.mp remote
  refine isRemoteLocation_iff.mpr ⟨scheme, Text.trimEnd rest, ?_, isScheme⟩
  obtain ⟨first, others, rfl⟩ := List.exists_cons_of_ne_nil isScheme.nonempty
  have ends : (first :: others ++ "://".toList).getLast? = some '/' := by
    rw [List.getLast?_append]
    rfl
  rw [String.toList_ofList, same, ← List.append_assoc, ← List.append_assoc]
  exact Text.trim_append rfl ends (isScheme.visible List.mem_cons_self) (by decide) rest

theorem trim_file (path : List Char) :
    Text.trim ("file://".toList ++ path) = "file://".toList ++ Text.trimEnd path :=
  Text.trim_append rfl rfl (by decide) (by decide) path

/-! ## What a location is taken for -/

namespace LaunchSpec

/-- What a launch command takes a location for, by the location without its outer blanks. -/
inductive ModelSource.OfLocation (location : String) : ModelSource → Prop where
  | default (nothing : Text.trim location.toList = []) : OfLocation location ⟨none, modelDirectory⟩
  | file (path : List Char) (trimmed : Text.trim location.toList = "file://".toList ++ path) :
      OfLocation location ⟨none, String.ofList path⟩
  | remote (trimmed : isRemoteLocation (String.ofList (Text.trim location.toList)) = true) :
      OfLocation location
        ⟨some (String.ofList (Text.dropTrailing (· == '/') (Text.trim location.toList))),
          modelDirectory⟩
  | path (something : Text.trim location.toList ≠ [])
      (notFile : ∀ path, Text.trim location.toList ≠ "file://".toList ++ path)
      (notRemote : isRemoteLocation (String.ofList (Text.trim location.toList)) = false) :
      OfLocation location ⟨none, String.ofList (Text.trim location.toList)⟩

theorem modelSource_ofLocation (location : String) :
    ModelSource.OfLocation location (modelSource location) := by
  unfold modelSource
  dsimp only
  split
  · next nothing => exact .default (List.isEmpty_iff.mp nothing)
  · next something =>
    rw [List.isEmpty_iff] at something
    split
    · next path file => exact .file path (Text.dropHead?_eq_some_iff.mp file)
    · next notFile =>
      split
      · next remote => exact .remote remote
      · next notRemote =>
        refine .path something (fun path same => ?_) (Bool.eq_false_of_not_eq_true notRemote)
        rw [same, Text.dropHead?_append] at notFile
        cases notFile

/-! ## What is copied first -/

theorem ModelSource.staging_staged (repository path : String) :
    ModelSource.staging ⟨some repository, path⟩ =
      "mkdir -p /models && hadoop fs -copyToLocal " ++ (repository ++ "/* /models && ") := by
  have target : "/* " ++ (modelDirectory ++ " && ") = "/* /models && " := by rfl
  have source : "mkdir -p " ++ (modelDirectory ++ " && hadoop fs -copyToLocal ") =
      "mkdir -p /models && hadoop fs -copyToLocal " := by rfl
  simp only [ModelSource.staging, String.append_assoc, target]
  simp only [← String.append_assoc, ← source]

/-- The step that copies the models of a location. There is none unless the location is remote
without its outer blanks, and then all that is in the repository is copied, whose location has no
trailing slashes. -/
inductive CopiesFrom (location : String) : String → Prop where
  | nothing (inPlace : isRemoteLocation (String.ofList (Text.trim location.toList)) = false) :
      CopiesFrom location ""
  | all (repository slashes : List Char)
      (remote : isRemoteLocation (String.ofList (Text.trim location.toList)) = true)
      (trimmed : Text.trim location.toList = repository ++ slashes)
      (dropped : ∀ slash ∈ slashes, slash = '/') (kept : repository.getLast? ≠ some '/') :
      CopiesFrom location
        ("mkdir -p /models && hadoop fs -copyToLocal " ++
          (String.ofList repository ++ "/* /models && "))

theorem copiesFrom_modelSource (location : String) :
    CopiesFrom location (modelSource location).staging := by
  have taken := modelSource_ofLocation location
  generalize modelSource location = source at taken
  cases taken with
  | default nothing => exact .nothing (by rw [nothing]; rfl)
  | file path trimmed =>
    exact .nothing (by rw [trimmed]; exact isRemoteLocation_of_file String.toList_ofList)
  | remote remote =>
    obtain ⟨slashes, trimmed, dropped⟩ :=
      Text.exists_eq_dropTrailing_append (· == '/') (Text.trim location.toList)
    rw [ModelSource.staging_staged]
    refine .all _ slashes remote trimmed (fun slash among => beq_iff_eq.mp (dropped slash among))
      fun ends => ?_
    exact absurd (Text.drop_eq_false_of_getLast? ends) (by decide)
  | path _ _ notRemote => exact .nothing notRemote

/-- The steps that copy files: the models of a location, and then the secrets if there is a path of
them. -/
def StagesFrom (location : String) (secrets : Option String) (staging : String) : Prop :=
  ∃ models, CopiesFrom location models ∧
    staging = models ++ secrets.elim "" fun path =>
      "mkdir -p /secrets && hadoop fs -copyToLocal " ++ (path ++ " /secrets/secrets.jks && ")

end LaunchSpec

end Fleet
