import Fleet.CommandLine.Program

/-!
# The command

Reads the arguments, the variables and the file of the configuration, and prints what the
invocation comes to. An unusable command line ends with code two, any other failure with code one.
-/

namespace Fleet

/-- The variables of the environment that the program knows. -/
def knownVariables : IO (List (String × String)) :=
  CommandLine.overrideVariables.filterMapM fun (_, name) => do
    return (← IO.getEnv name).map fun value => (name, value)

/-- Why reading a file failed. -/
def FileError.ofIO : IO.Error → FileError
  | .permissionDenied .. => .denied
  | .inappropriateType _ code _ => if code = 20 then .notDirectory else .isDirectory
  | _ => .notFound

/-- The contents of a file, or why it cannot be read. -/
def readContents (path : String) : IO (Except FileError String) := do
  try
    return .ok (← IO.FS.readFile path)
  catch error =>
    return .error (.ofIO error)

end Fleet

open Fleet CommandLine

/-- Runs one invocation. -/
def main (arguments : List String) : IO UInt32 := do
  match Invocation.read? arguments (← knownVariables) with
  | none =>
      IO.eprintln "usage: standalone | check-config | render-command, followed by options"
      return 2
  | some invocation =>
      let contents ←
        match invocation.overrides.file with
        | none => pure (.error .notFound)
        | some path => readContents path
      match invocation.run fun _ => contents with
      | .printed text =>
          IO.print text
          return 0
      | .serving _ =>
          IO.eprintln "Error: this build does not listen on sockets"
          return 1
      | .failed failure =>
          IO.eprint failure.report
          return 1
