import Fleet.Cluster.Events

/-!
# How processes end

A process exits with a code or is ended by a signal. The completion of its container says which.
-/

namespace Fleet

/-- How a process ended. -/
inductive ProcessEnding where
  | exited (code : Nat)
  | signalled (signal : Nat)
  deriving DecidableEq, Repr

/-- The names of the signals, from the first one on. -/
def signalNames : List String :=
  ["HUP", "INT", "QUIT", "ILL", "TRAP", "ABRT", "BUS", "FPE", "KILL", "USR1", "SEGV", "USR2",
    "PIPE", "ALRM", "TERM", "STKFLT", "CHLD", "CONT", "STOP", "TSTP", "TTIN", "TTOU", "URG", "XCPU",
    "XFSZ", "VTALRM", "PROF", "WINCH", "IO", "PWR", "SYS"]

namespace ProcessEnding

/-- The ending as it is shown in diagnostics. -/
def describe : ProcessEnding → String
  | exited code => "process exit status: " ++ Nat.repr code
  | signalled signal =>
      "process signal: " ++ Nat.repr signal ++
        match signalNames[signal - 1]? with
        | some name => " (SIG" ++ name ++ ")"
        | none => ""

/-- The report of a container whose process ended by itself. -/
def completion (replica : String) : ProcessEnding → Completion
  | exited 0 => ⟨replica, .completed, some 0, ""⟩
  | exited code => ⟨replica, .failed, some code, (exited code).describe⟩
  | signalled signal => ⟨replica, .failed, none, (signalled signal).describe⟩

end ProcessEnding

/-- The report of a container that was stopped. -/
def stoppedCompletion (replica diagnostics : String) : Completion where
  replica := replica
  state := .stoppedByPolicy
  exitCode := none
  diagnostics := diagnostics

end Fleet
