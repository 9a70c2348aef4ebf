import Fleet.Recent

/-!
# Alerts

Events that operators should see: changes of scale and failures of containers. The log keeps the
last hundred.
-/

namespace Fleet

/-- How urgent an alert is. -/
inductive Severity where
  | info
  | warning
  | critical
  deriving DecidableEq, Repr

namespace Severity

/-- The name of a severity in status documents. -/
def name : Severity → String
  | info => "info"
  | warning => "warning"
  | critical => "critical"

end Severity

/-- A recorded event, with the time of its recording in milliseconds of the epoch. -/
structure Alert where
  kind : String
  message : String
  severity : Severity
  time : Nat
  deriving DecidableEq, Repr

namespace Alert

/-- The alert for the failure of a container. -/
def containerFailure (container reason : String) (time : Nat) : Alert where
  kind := "container_failure"
  message := "Container " ++ container ++ " failed: " ++ reason
  severity := .critical
  time := time

/-- The alert for a change of the target from one replica count to another. -/
def scalingEvent (event : String) (before after : Nat) (time : Nat) : Alert where
  kind := "scaling_event"
  message := event ++ " from " ++ Nat.repr before ++ " to " ++ Nat.repr after ++ " containers"
  severity := .info
  time := time

end Alert

/-- The number of alerts kept. -/
def alertCapacity : Nat := 100

/-- The last alerts, oldest first. -/
abbrev AlertLog := Recent alertCapacity Alert

end Fleet
