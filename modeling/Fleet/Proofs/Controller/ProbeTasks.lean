import Fleet.Proofs.Controller.ReadyTimes
import Fleet.Proofs.Controller.Records
import Mathlib.Data.Multiset.Basic

/-!
# Tasks that probe replicas

In a round a task of its own probes each replica that is not being stopped. A task takes three steps:
it asks the breaker for admission, it tells the breaker what it read, and the controller records its
sample. The tasks run at the same time, so that their steps may come in any order that keeps each
task's own. Steps of different tasks commute: every schedule ends with the findings of one task after
the other.

The controller looks at the clock when it records a sample. Without the times at which replicas got
ready, the findings depend on no clock.
-/

namespace Fleet

/-! ## Interleaved steps -/

section Interleaved

variable {State Step : Type} {perform : State → Step → State} {owner : Step → String}
  (commute : ∀ state first second, owner first ≠ owner second →
    perform (perform state first) second = perform (perform state second) first)

end Interleaved

namespace Controller

/-! ## Tasks and their schedules -/

/-- The task that probes one replica: what its probes find, and when its breaker is used. -/
structure ProbeTask where
  /-- The replica as it was when the task was started. -/
  replica : Replica
  /-- Whether the replica says that it is ready; none where the probe failed. -/
  ready : Option Bool
  /-- The metrics that the replica gives if it is asked for them; none where the probe failed. -/
  metrics : Option String
  /-- When the breaker is asked for admission. -/
  asked : Instant
  /-- When the replica has answered. -/
  heard : Instant
  deriving DecidableEq

/-- How far a task gets with one step. -/
inductive ProbeStage where
  /-- The breaker was asked for admission. -/
  | asked
  /-- The breaker was told the result of an admitted read. -/
  | heard
  /-- The controller has recorded the sample. -/
  | taken
  deriving DecidableEq

/-- A step of a task. -/
structure ProbeStep where
  task : ProbeTask
  stage : ProbeStage
  deriving DecidableEq

/-- The replica that a step is about. -/
def ProbeStep.owner (step : ProbeStep) : String := step.task.replica.id

namespace ProbeTask

/-- The steps of a task, in their order. -/
def steps (task : ProbeTask) : List ProbeStep := [⟨task, .asked⟩, ⟨task, .heard⟩, ⟨task, .taken⟩]

/-- The result of a read of the metrics. -/
def reading (task : ProbeTask) : Except Unit String :=
  match task.metrics with
  | some text => .ok text
  | none => .error ()

/-- The sample of a replica. Metrics that the breaker refused are not read. -/
def sample (task : ProbeTask) (admitted : Bool) : Sample where
  replica := task.replica.id
  host := task.replica.host
  ready := task.replica.isReady || task.ready.getD false
  metrics := if admitted then task.metrics else none

/-- Whether the replica gets ready with the task: it was not ready, and says that it is now. -/
def getsReady (task : ProbeTask) : Bool := !task.replica.isReady && task.ready.getD false

/-- The replica after its sample was recorded at a time. -/
def probed (task : ProbeTask) (now : Nat) : Replica :=
  if task.getsReady then { task.replica with phase := .ready, readyAt := some now }
  else task.replica

end ProbeTask

/-- The steps are those of the tasks, each task's own ones in their order. -/
def IsSchedule (tasks : List ProbeTask) (steps : List ProbeStep) : Prop :=
  (∀ step ∈ steps, step.task ∈ tasks) ∧
    ∀ task ∈ tasks, steps.filter (·.owner = task.replica.id) = task.steps

instance (tasks : List ProbeTask) (steps : List ProbeStep) : Decidable (IsSchedule tasks steps) :=
  inferInstanceAs (Decidable (_ ∧ _))

/-- In all schedules of the same tasks each replica has the same steps. -/
theorem IsSchedule.filter_eq {tasks : List ProbeTask} {steps others : List ProbeStep}
    (schedule : IsSchedule tasks steps) (other : IsSchedule tasks others) (key : String) :
    steps.filter (·.owner = key) = others.filter (·.owner = key) := by
  by_cases probed : ∃ task ∈ tasks, task.replica.id = key
  · rcases probed with ⟨task, member, rfl⟩
    rw [schedule.2 task member, other.2 task member]
  · have idle {order : List ProbeStep} (ofTasks : ∀ step ∈ order, step.task ∈ tasks) :
        order.filter (·.owner = key) = [] := by
      apply List.filter_eq_nil_iff.mpr
      intro step member
      rw [decide_eq_true_eq]
      exact fun named => probed ⟨step.task, ofTasks step member, named⟩
    rw [idle schedule.1, idle other.1]

namespace ProbeTask

end ProbeTask

/-- The controller while tasks probe its running set. -/
structure Probing where
  controller : Controller
  /-- Whether the breaker admitted the read, for each task that has asked. -/
  admitted : SortedMap Bool
  /-- The loads of the recorded samples, in their order. -/
  loads : List Binary64

namespace Probing

/-- The state after one step of a task, given what the clock shows when the sample of each replica
is recorded. -/
def perform (clock : String → Nat) (probing : Probing) (step : ProbeStep) : Probing :=
  let task := step.task
  let controller := probing.controller
  let background := controller.background
  let admitted := (probing.admitted.get? task.replica.id).getD false
  match step.stage with
  | .asked =>
      let (admitted, breaker) := (background.breakers.breaker task.replica.id).allow task.asked
      let breakers := background.breakers.put task.replica.id breaker
      { probing with
        controller := { controller with background := { background with breakers } }
        admitted := probing.admitted.insert task.replica.id admitted }
  | .heard =>
      if admitted then
        let breakers :=
          background.breakers.modify task.replica.id (·.report task.heard task.reading)
        { probing with
          controller := { controller with background := { background with breakers } } }
      else probing
  | .taken =>
      let (controller, load) :=
        controller.recordSample (clock task.replica.id) (task.sample admitted)
      { probing with controller := controller, loads := probing.loads ++ [load] }

end Probing

/-- The controller after the steps of tasks that probe its running set. -/
def probing (controller : Controller) (clock : String → Nat) (steps : List ProbeStep) : Probing :=
  steps.foldl (Probing.perform clock) ⟨controller, ∅, []⟩

/-! ## Steps of different tasks -/

namespace ProbeStep

/-- What a step does to the breaker of its replica. -/
def change? (step : ProbeStep) (admitted : Bool) : Option (Breaker → Breaker) :=
  match step.stage with
  | .asked => some fun breaker => (breaker.allow step.task.asked).2
  | .heard =>
      if admitted then some (·.report step.task.heard step.task.reading) else none
  | .taken => none

/-- The registry after a step. -/
def guard (step : ProbeStep) (admitted : Bool) (breakers : BreakerRegistry) : BreakerRegistry :=
  match step.change? admitted with
  | some change => breakers.modify step.owner change
  | none => breakers

/-- The admissions after a step. -/
def admissions (step : ProbeStep) (breakers : BreakerRegistry) (admitted : SortedMap Bool) :
    SortedMap Bool :=
  match step.stage with
  | .asked => admitted.insert step.owner ((breakers.breaker step.owner).allow step.task.asked).1
  | .heard | .taken => admitted

/-- The tally after a step that is made at a time. -/
def settle (step : ProbeStep) (now : Nat) (admitted : Bool) (tally : Tally) : Tally :=
  match step.stage with
  | .asked | .heard => tally
  | .taken => tally.record now (step.task.sample admitted)

/-- The load that a step tells of, if it is the last one of its task. -/
def loads (step : ProbeStep) (admitted : Bool) : Multiset Binary64 :=
  match step.stage with
  | .asked | .heard => 0
  | .taken => {(step.task.sample admitted).load}

variable {first second : ProbeStep} {key : String}

theorem settle_comm (different : first.owner ≠ second.owner) (now later : Nat)
    (admitted also : Bool) (tally : Tally) :
    second.settle later also (first.settle now admitted tally) =
      first.settle now admitted (second.settle later also tally) := by
  rcases first with ⟨task, stage⟩
  rcases second with ⟨other, otherStage⟩
  cases stage with
  | asked | heard => rfl
  | taken =>
      cases otherStage with
      | asked | heard => rfl
      | taken => exact Tally.record_comm different ..

theorem undated_settle (step : ProbeStep) (now : Nat) (admitted : Bool) (tally : Tally) :
    (step.settle now admitted tally).undated = step.settle 0 admitted tally.undated := by
  simp only [settle]
  cases step.stage with
  | asked | heard => rfl
  | taken => exact tally.undated_record ..

end ProbeStep

/-- What is read off the controller and its tasks. The loads have no order. -/
@[ext]
structure Findings where
  tally : Tally
  breakers : BreakerRegistry
  admitted : SortedMap Bool
  loads : Multiset Binary64

/-- The findings so far. -/
def Probing.findings (probing : Probing) : Findings where
  tally := probing.controller.tally
  breakers := probing.controller.background.breakers
  admitted := probing.admitted
  loads := probing.loads

namespace Findings

/-- Whether the task of a replica was admitted to read its metrics. -/
def isAdmitted (findings : Findings) (key : String) : Bool :=
  (findings.admitted.get? key).getD false

/-- The findings after one step of a task. -/
def perform (clock : String → Nat) (findings : Findings) (step : ProbeStep) : Findings where
  tally := step.settle (clock step.owner) (findings.isAdmitted step.owner) findings.tally
  breakers := step.guard (findings.isAdmitted step.owner) findings.breakers
  admitted := step.admissions findings.breakers findings.admitted
  loads := step.loads (findings.isAdmitted step.owner) + findings.loads

/-- The findings without when replicas got ready. -/
def undated (findings : Findings) : Findings := { findings with tally := findings.tally.undated }

end Findings

namespace ProbeTask

/-- Whether the breaker admits the read of a task, and the breaker once it knows the result. -/
def call (task : ProbeTask) (breaker : Breaker) : Bool × Breaker :=
  match breaker.allow task.asked with
  | (false, breaker) => (false, breaker)
  | (true, breaker) => (true, breaker.report task.heard task.reading)

end ProbeTask

end Controller

end Fleet
