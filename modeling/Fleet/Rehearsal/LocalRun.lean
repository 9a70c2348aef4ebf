import Fleet.Cluster.Local
import Fleet.Rehearsal.Shell

/-!
# Rehearsed local clusters

A rehearsed local cluster runs its containers in the rehearsed shell and keeps their logs. A
container either ends at once or stays until it is stopped.
-/

namespace Fleet.Rehearsal

/-- What stands under the name of a log. -/
inductive LogEntry where
  | contents (text : String)
  /-- A directory, so that no log can be created there. -/
  | blocked
  deriving DecidableEq

/-- A local cluster with the logs of its containers. -/
structure LocalRun where
  cluster : LocalCluster
  /-- The logs by container and stream. -/
  logs : List ((String × String) × LogEntry) := []

namespace LocalRun

/-- How a log is named in messages. -/
def logName (directory replica stream : String) : String :=
  directory ++ "/" ++ replica ++ "/" ++ stream ++ ".log"

/-- The run with an entry under the name of a log. -/
def putLog (run : LocalRun) (replica stream : String) (entry : LogEntry) : LocalRun :=
  { run with logs := ((replica, stream), entry) :: run.logs }

/-- The contents of a log. -/
def log? (run : LocalRun) (replica stream : String) : Option String :=
  match run.logs.lookup (replica, stream) with
  | some (.contents text) => some text
  | _ => none

/-- Creates empty logs of a container for the streams in turn, up to the first one that a directory
stands in the place of. -/
def createLogs (directory replica : String) :
    LocalRun → (streams : List String) → Except String Unit × LocalRun
  | run, [] => (.ok (), run)
  | run, stream :: streams =>
      if run.logs.lookup (replica, stream) = some .blocked then
        (.error ("create " ++ logName directory replica stream ++
          ": Is a directory (os error 21)"), run)
      else createLogs directory replica (run.putLog replica stream (.contents "")) streams

/-- The processes that were told to stop end, one after the other, in at most the given number of
steps; the end of one may stop another. -/
def reapKilled : (steps : Nat) → LocalRun → LocalRun
  | 0, run => run
  | steps + 1, run =>
      match run.cluster.processes.find? (·.isKilled) with
      | none => run
      | some process =>
          reapKilled steps { run with cluster := run.cluster.reap process (.signalled 9) }

/-- The run after the processes that were told to stop have ended. -/
def settle (run : LocalRun) : LocalRun :=
  reapKilled run.cluster.processes.length run

/-- The run after a completion arrived that is waited for once the last process was started. Where
processes were told to stop before, theirs arrive first, and the last process goes on running
unless that stops it, too. Else it runs its command and ends. -/
def complete (run : LocalRun) (replica command : String) (environment : List (String × String)) :
    LocalRun :=
  match run.cluster.processes.getLast? with
  | none => run
  | some process =>
      if run.cluster.processes.any (·.isKilled) then run.settle
      else
        let shell := Shell.run environment command
        let logged := (run.putLog replica "stdout" (.contents shell.output)).putLog replica
          "stderr" (.contents shell.errors)
        { logged with cluster := run.cluster.reap process shell.lastEnding }

/-- Launches a container with a command, and waits for a completion unless the container stays. An
earlier process of a container that is launched again ends later. -/
def launch (run : LocalRun) (directory replica command : String)
    (environment : List (String × String)) (stays : Bool) :
    Except ClusterError Unit × LocalRun :=
  let (logs, run) :=
    if run.cluster.placements.contains replica then
      run.createLogs directory replica ["stdout", "stderr"]
    else (.ok (), run)
  let (result, cluster) := run.cluster.launch replica logs
  let launched := { run with cluster }
  match result with
  | .error _ => (result, launched)
  | .ok () =>
      (result,
        if stays then launched else launched.complete replica command environment)

end LocalRun

end Fleet.Rehearsal
