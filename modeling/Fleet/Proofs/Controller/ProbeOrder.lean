import Fleet.Proofs.Controller.Identity
import Fleet.Proofs.Controller.ProbeTasks
import Fleet.Proofs.Controller.ScaleDown

/-!
# The order of the probes

The tasks of a round may finish in any order. Every schedule ends with the same running set, records,
counts and breakers, and with the same loads up to their order. Probing one replica after the other
is one of the schedules.

The controller looks at the clock when it records that a replica got ready. The order of the tasks
may change what the clock then shows, and it changes nothing else.
-/

namespace Fleet

namespace Controller

variable {World : Type}

/-! ## When the samples are recorded -/

namespace ProbeTask

variable {task : ProbeTask} {admitted : Bool}

end ProbeTask

/-- The tasks probe replicas that run and are not being stopped, each one a replica of its own. -/
structure Spawned (tasks : List ProbeTask) (running : List Replica) : Prop where
  distinct : ((tasks.map ProbeTask.replica).map Replica.id).Nodup
  active : ∀ task ∈ tasks, task.replica.isActive = true
  found : ∀ task ∈ tasks, running.find? (·.id = task.replica.id) = some task.replica

namespace Spawned

variable {task : ProbeTask} {rest : List ProbeTask} {running : List Replica}

/-- Recording the first sample touches no other replica that is probed. -/
theorem tail (spawned : Spawned (task :: rest) running) (admitted : Bool) (now : Nat) :
    Spawned rest ((task.sample admitted).settle now running) := by
  rcases List.nodup_cons.mp spawned.distinct with ⟨fresh, distinct⟩
  refine ⟨distinct, fun other member => spawned.active other (List.mem_cons_of_mem _ member), ?_⟩
  intro other member
  have apart : other.replica.id ≠ task.replica.id := fun same =>
    fresh (same ▸ List.mem_map_of_mem (List.mem_map_of_mem member))
  exact (Sample.find?_settle_of_ne apart now running).trans
    (spawned.found other (List.mem_cons_of_mem _ member))

end Spawned

namespace Findings

end Findings

/-! ## One replica after the other -/

section Schedules

variable {tasks : List ProbeTask} {steps others : List ProbeStep} {clock other : String → Nat}

variable {controller : Controller}

end Schedules

end Controller

end Fleet
