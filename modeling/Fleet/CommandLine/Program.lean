import Fleet.CommandLine.Overrides
import Fleet.Config.Reading
import Fleet.Config.Validation
import Fleet.Config.Writing
import Fleet.FileError
import Fleet.Launch.Plan
import Fleet.Toml.Writing

/-!
# The program

One invocation names a command and overrides the configuration. What it prints, or why it fails, is
a function of the arguments, the environment and the contents of the file that they name.
-/

namespace Fleet.CommandLine

/-- What an invocation asks for. -/
inductive Command where
  /-- Run the controller and the status surface. -/
  | serve
  /-- Print the configuration. -/
  | showConfig
  /-- Print the launch of one replica. -/
  | showLaunch (replica : String)
  deriving DecidableEq

/-- An invocation of the program. -/
structure Invocation where
  command : Command
  overrides : Overrides
  /-- Whether log lines are objects instead of text. -/
  structuredLogs : Bool := false

/-- The option that any place of the command line takes. -/
def logForm : OptionForm := { name := "log-json", takesValue := false }

/-- The option that names the replica of a launch. -/
def replicaForm : OptionForm := { name := "replica-id" }

namespace Invocation

/-- The forms of the options of a named command. -/
def forms? : (command : String) → Option (List OptionForm)
  | "standalone" | "check-config" => some (logForm :: overrideForms)
  | "render-command" => some (logForm :: replicaForm :: overrideForms)
  | _ => none

/-- The command of a name, with its options. -/
def commandOf (name : String) (options : List (String × String)) : Command :=
  match name with
  | "check-config" => .showConfig
  | "render-command" => .showLaunch ((options.lookup replicaForm.name).getD "container_000001")
  | _ => .serve

/-- The invocation that arguments and variables make. -/
def read? (arguments : List String) (environment : List (String × String)) :
    Option Invocation := do
  let isLogOption (argument : String) : Bool := argument = "--" ++ logForm.name
  let leading := arguments.takeWhile isLogOption
  let name :: rest := arguments.dropWhile isLogOption | none
  let forms ← forms? name
  let options ← options? forms rest
  if leading.length > 1 then none
  else
    return {
      command := commandOf name options
      overrides := ← Overrides.ofGiven? ⟨options, environment⟩
      structuredLogs := !leading.isEmpty || (options.lookup logForm.name).isSome }

end Invocation

/-- Why an invocation fails. -/
inductive Failure where
  | unreadableFile (path : String) (error : FileError)
  /-- The file holds no configuration. -/
  | malformedFile (path : String)
  | invalidConfig (error : ConfigError)
  /-- A number of the configuration is too great to be written. -/
  | unwritableNumber
  | launch (error : LaunchError)

/-- A cause among several, with its position. -/
def numberedCause (position : Nat) (cause : String) : String :=
  "    " ++ Nat.repr position ++ ": " ++ cause

/-- A report and the heading of the causes that follow it. -/
def reportWithCauses (report causes : String) : String :=
  "Error: " ++ report ++ "\n\nCaused by:\n" ++ causes

/-- The report of a failure. That of a malformed file ends where the reader's own report would
begin. -/
def Failure.report : Failure → String
  | unreadableFile path error =>
      reportWithCauses ("loading " ++ path) <|
        numberedCause 0 ("failed to read config file: " ++ error.message ++ "\n") ++
        numberedCause 1 (error.message ++ "\n")
  | malformedFile path =>
      reportWithCauses ("loading " ++ path) (numberedCause 0 "failed to parse config: ")
  | invalidConfig error =>
      reportWithCauses "invalid configuration" ("    " ++ error.message ++ "\n")
  | unwritableNumber => "Error: out-of-range value for u64 type\n"
  | launch error => "Error: " ++ error.message ++ "\n"

/-- What an invocation comes to. -/
inductive Outcome where
  | printed (text : String)
  /-- The controller and the status surface are to run. -/
  | serving (config : Config)
  | failed (failure : Failure)

namespace Invocation

/-- The configuration of an invocation, given how files read. -/
def config (invocation : Invocation) (contents : String → Except FileError String) :
    Except Failure Config := do
  let base ←
    match invocation.overrides.file with
    | none => pure {}
    | some path => do
        let text ← (contents path).mapError (.unreadableFile path)
        match Config.read? text with
        | some config => pure config
        | none => throw (.malformedFile path)
  let config := invocation.overrides.apply base
  config.validate.mapError .invalidConfig
  return config

/-- The variables, one on each line, and the command after an empty line. -/
def launchText (context : LaunchContext) : String :=
  String.join (context.environment.entries.map fun (name, value) => name ++ "=" ++ value ++ "\n") ++
    "\n" ++ context.command ++ "\n"

/-- What a command comes to under a configuration. -/
def perform (command : Command) (config : Config) : Outcome :=
  match command with
  | .serve => .serving config
  | .showConfig =>
      match Toml.write? config.fields with
      | some text => .printed text
      | none => .failed .unwritableNumber
  | .showLaunch replica =>
      match LaunchPlan.ofConfig config with
      | .ok plan => .printed (launchText (plan.contextFor replica))
      | .error error => .failed (.launch error)

/-- What an invocation comes to, given how files read. -/
def run (invocation : Invocation) (contents : String → Except FileError String) : Outcome :=
  match invocation.config contents with
  | .ok config => perform invocation.command config
  | .error failure => .failed failure

end Invocation

end Fleet.CommandLine
