import Fleet.Breaker
import Fleet.Retry

/-!
# Failures of cluster calls

What can go wrong in a call to the allocator or to the launcher, and how the outcome of a guarded
call with retries becomes one of these failures.
-/

namespace Fleet

/-- The failure of a call to the cluster. -/
inductive ClusterError where
  /-- The call may succeed when it is made again. -/
  | transient (reason : String)
  /-- The cluster has no room for the request now. -/
  | allocationDenied (reason : String)
  | nonRetryable (reason : String)
  /-- Every attempt of a call with retries failed. -/
  | exhausted (attempts : Nat) (last : ClusterError)
  | registration (reason : String)
  | unknownReplica (replica : String)
  /-- The named breaker refused the call. -/
  | circuitOpen (name : String)
  | cancelled
  /-- The retry policy has no delay that could follow. -/
  | delayOutOfRange
  deriving DecidableEq

namespace ClusterError

/-- Whether a call that failed so is worth making again. -/
def isTransient : ClusterError → Bool
  | transient _ => true
  | _ => false

/-- The text of the failure. -/
def message : ClusterError → String
  | transient reason => "transient cluster failure: " ++ reason
  | allocationDenied reason => "allocation denied: " ++ reason
  | nonRetryable reason => "non-retryable cluster failure: " ++ reason
  | exhausted attempts last =>
      "gave up after " ++ Nat.repr attempts ++ " attempts: " ++ last.message
  | registration reason => "registration failed: " ++ reason
  | unknownReplica replica => "unknown replica: " ++ replica
  | circuitOpen name => refusalMessage name
  | cancelled => "cancelled by shutdown"
  | delayOutOfRange => "retry delay out of range"

/-- The failure that a call with retries amounts to. -/
def ofRetryError : RetryError ClusterError → ClusterError
  | .exhausted attempts last => exhausted attempts last
  | .nonRetryable failure => failure
  | .cancelled => cancelled
  | .delayOutOfRange => delayOutOfRange

/-- The failure that a guarded call with retries amounts to. -/
def ofCallError : CallError (RetryError ClusterError) → ClusterError
  | .rejected name => circuitOpen name
  | .inner failure => ofRetryError failure

end ClusterError

/-- The text of the error that keeps the controller from starting. -/
def registrationMessage (failure : ClusterError) : String :=
  "failed to register with the cluster allocator: " ++ failure.message

/-- The failure of a probe of a replica. -/
inductive ProbeError where
  | connect (address reason : String)
  | timeout (uri : String) (limit : Duration)
  | status (uri : String) (code : Nat)
  | http (uri reason : String)
  deriving DecidableEq

namespace ProbeError

/-- The text of the failure. -/
def message : ProbeError → String
  | connect address reason => "connect to " ++ address ++ " failed: " ++ reason
  | timeout uri limit => "request to " ++ uri ++ " timed out after " ++ limit.describe
  | status uri code => uri ++ " returned status " ++ Nat.repr code
  | http uri reason => "http error on " ++ uri ++ ": " ++ reason

end ProbeError

end Fleet
