import Fleet.FileError
import Fleet.Launch.Command

/-!
# The catalog of models

A model repository on a local disk holds one model in each of its directories. A remote one cannot
be listed.
-/

namespace Fleet

/-- What an entry of a directory is. -/
inductive EntryKind where
  | file
  | directory
  | link
  deriving DecidableEq, Repr

/-- An entry of a directory. -/
structure DirectoryEntry where
  name : String
  kind : EntryKind
  deriving DecidableEq, Repr

/-- Where models can be listed. -/
inductive Catalog where
  | remote (location : String)
  | directory (path : String)
  deriving DecidableEq, Repr

/-- Why models cannot be listed. -/
inductive CatalogError where
  | unsupported (location : String)
  | unreadable (path : String) (error : FileError)
  deriving DecidableEq, Repr

/-- The text of the error. -/
def CatalogError.message : CatalogError → String
  | unsupported location => "listing " ++ location ++ " is not supported"
  | unreadable path error => "failed to list " ++ path ++ ": " ++ error.message

namespace Catalog

/-- The catalog of a model repository. -/
def ofLocation (location : String) : Catalog :=
  if isRemoteLocation location then .remote location
  else
    match Text.dropHead? "file://".toList location.toList with
    | some path => .directory (String.ofList path)
    | none => .directory location

/-- The models among the entries of a directory: its visible directories, sorted. -/
def modelsOf (entries : List DirectoryEntry) : List String :=
  ((entries.filter fun entry =>
      entry.kind = .directory && entry.name.toList.head? ≠ some '.').map
    DirectoryEntry.name).mergeSort (· ≤ ·)

/-- The models of a catalog, given how directories read. -/
def models (catalog : Catalog)
    (entries : String → Except FileError (List DirectoryEntry)) :
    Except CatalogError (List String) :=
  match catalog with
  | .remote location => .error (.unsupported location)
  | .directory path => ((entries path).mapError (.unreadable path)).map modelsOf

end Catalog

end Fleet
