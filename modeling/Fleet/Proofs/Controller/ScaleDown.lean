import Fleet.Proofs.Controller.Rounds
import Fleet.Proofs.Controller.Transition

/-!
# Scaling down

A round asks one replica to stop at most. It does so wherever it lowers the target, also while a
part of the old target is only requested or being launched; the replicas that are left may then be
fewer than the new target. Where the old target was met by active replicas, or the target stays,
enough of them are left.
-/

namespace Fleet.Controller

variable {World : Type}

/-- Whether more calls that stop a replica are outstanding after a step than before it. -/
def AsksToStop (before after : Controller) : Prop :=
  ∃ replica, before.background.outstanding.count (.stop replica) <
    after.background.outstanding.count (.stop replica)

/-- A round that asks a replica to stop found one to ask, and reason to. -/
theorem Ticked.victim_of_asksToStop {before after : Controller} (ticked : Ticked before after)
    (asks : AsksToStop before after) :
    after.activeCount + 1 = before.activeCount ∧
      (after.target < before.target ∨
        after.target = before.target ∧ after.target < before.activeCount) := by
  rcases ticked.work with ⟨victim, outstanding, active, reason⟩
  rcases asks with ⟨replica, more⟩
  cases victim with
  | none =>
      have releases : (before.unreleased.keys.map Work.release).count (.stop replica) = 0 := by
        simp [List.count_eq_zero]
      rw [outstanding, Multiset.count_add, Multiset.count_add, Multiset.coe_count,
        Multiset.coe_count, releases] at more
      simp at more
  | some victim => exact ⟨active, reason rfl⟩

/-- A round that asks a replica to stop leaves one active replica fewer than before. So it leaves
as many as the new target exactly where there were more than that before: certainly where the
active replicas met the old target, and where the round does not lower the target. -/
theorem capacity_after_stop (surroundings : Surroundings World) (controller : Controller)
    (world : World)
    (asks : AsksToStop controller (controller.tick surroundings world).1) :
    (controller.tick surroundings world).1.activeCount + 1 = controller.activeCount ∧
      ((controller.tick surroundings world).1.target ≤
          (controller.tick surroundings world).1.activeCount ↔
        (controller.tick surroundings world).1.target < controller.activeCount) ∧
      (controller.target ≤ controller.activeCount ∨
          controller.target ≤ (controller.tick surroundings world).1.target →
        (controller.tick surroundings world).1.target ≤
          (controller.tick surroundings world).1.activeCount) := by
  rcases (tick_ticked surroundings controller world).victim_of_asksToStop asks with
    ⟨fewer, lowered | ⟨same, exceeded⟩⟩
  · refine ⟨fewer, by omega, ?_⟩
    rintro (met | kept) <;> omega
  · exact ⟨fewer, by omega, fun _ => by omega⟩

/-- The registration hands over two containers. -/
def twoAdopted : Surroundings Unit :=
  standstill [bareAllocation "first", bareAllocation "second"]

/-- The controller after it adopted two replicas. -/
def afterAdoption : Controller := ((ofSettings plainSettings).startUp twoAdopted ()).2.1

/-- The controller after it lost one of its two replicas. -/
def afterLoss : Controller :=
  (afterAdoption.handleEvent twoAdopted (.completed [⟨"first", .failed, none, ""⟩]) ()).1

/-- Two replicas serve when an idle round lowers the target from two to one. One is left. -/
theorem capacity_after_idle_round :
    AsksToStop afterAdoption (afterAdoption.tick twoAdopted ()).1 ∧
      (afterAdoption.tick twoAdopted ()).1.target ≤
        (afterAdoption.tick twoAdopted ()).1.activeCount := by
  have asks : AsksToStop afterAdoption (afterAdoption.tick twoAdopted ()).1 :=
    ⟨{ (bareAllocation "first").toReplica with phase := .stopping }, by decide +kernel⟩
  exact ⟨asks, (capacity_after_stop twoAdopted afterAdoption () asks).2.2 (by decide +kernel)⟩

/-- One replica serves and another one is requested when an idle round lowers the target from two to
one. None is left. -/
theorem scale_down_below_target :
    ∃ labels, Run twoAdopted labels afterLoss ∧
      AsksToStop afterLoss (afterLoss.tick twoAdopted ()).1 ∧
      (afterLoss.tick twoAdopted ()).1.activeCount < (afterLoss.tick twoAdopted ()).1.target := by
  have initial := @Run.initial Unit twoAdopted plainSettings
  have run := (initial.step (.start ())).step
    (.event (.completed [⟨"first", .failed, none, ""⟩]) ())
  refine ⟨_, run, ⟨{ (bareAllocation "second").toReplica with phase := .stopping }, ?_⟩, ?_⟩
  · decide +kernel
  · decide +kernel

end Fleet.Controller
