import Fleet.Proofs.Controller.Rounds
import Fleet.Proofs.Controller.Transition

/-!
# The breakers in a run

The launcher's breaker is shared by jobs, which ask it and report to it at different times. Every
other breaker of the registry is used by one call after the other: from asking to reporting, nobody
else touches it. So whatever holds of a fresh breaker, and is kept by every whole call, holds of all
these breakers in every run.
-/

namespace Fleet

/-- Every breaker but the launcher's has a property. -/
def BreakerRegistry.Each (Holds : Breaker → Prop) (registry : BreakerRegistry) : Prop :=
  ∀ key, key ≠ launcherKey → Holds (registry.breaker key)

namespace BreakerRegistry

variable {Holds : Breaker → Prop} {registry : BreakerRegistry}

theorem Each.put (each : registry.Each Holds) {key : String} {kept : Breaker}
    (holds : key ≠ launcherKey → Holds kept) : (registry.put key kept).Each Holds := by
  intro other notLauncher
  rw [breaker_put]
  split
  · next same => exact holds (same ▸ notLauncher)
  · exact each other notLauncher

theorem Each.ensure (each : registry.Each Holds) (key : String) :
    (registry.ensure key).Each Holds :=
  each.put fun notLauncher => each key notLauncher

theorem Each.remove (each : registry.Each Holds)
    (fresh : ∀ name settings, Holds (.fresh name settings)) (key : String) :
    (registry.remove key).Each Holds := by
  intro other notLauncher
  rw [breaker_remove]
  split
  · exact fresh key registry.settings
  · exact each other notLauncher

theorem Each.of_evolves {added : Multiset Work} {before after : Background}
    (each : before.breakers.Each Holds) (evolved : Background.Evolves added before after) :
    after.breakers.Each Holds := by
  intro key notLauncher
  rw [evolved.breaker key notLauncher]
  exact each key notLauncher

end BreakerRegistry

namespace Controller

variable {World : Type} {surroundings : Surroundings World} {Holds : Breaker → Prop}
  {before after : Controller}

theorem start_each (controller : Controller) (work : Work)
    (each : controller.background.breakers.Each Holds) :
    (controller.start work).background.breakers.Each Holds :=
  each.of_evolves (controller.background.start_evolves work)

theorem Granted.each {allocation : Allocation} (granted : Granted before allocation after)
    (each : before.background.breakers.Each Holds) : after.background.breakers.Each Holds := by
  cases granted with
  | ignored => exact each
  | released => exact start_each _ (.release allocation.replica) each
  | accepted => exact start_each _ (.launch allocation.toReplica) each

theorem Finished.each {work : Work} {result : Except ClusterError Unit} {now : Nat}
    (finished : Finished before now work result after)
    (each : before.background.breakers.Each Holds) : after.background.breakers.Each Holds := by
  cases finished with
  | @launched replica _ _ landed =>
      cases landed with
      | discarded => exact each
      | adopted => exact each
      | failed => exact start_each _ (.release replica.id) each
  | stopped => exact each
  | released => exact each

theorem retryReleases_each (controller : Controller)
    (each : controller.background.breakers.Each Holds) :
    controller.retryReleases.background.breakers.Each Holds := by
  rcases controller.retryReleases_frame with ⟨background, retried, evolved⟩
  rw [retried]
  exact each.of_evolves evolved

section Called

variable (called : ∀ {before after : Breaker}, before.Called after → Holds before → Holds after)
include called

theorem callRequest_each (surroundings : Surroundings World) (controller : Controller)
    (request : AllocationRequest) (world : World)
    (each : controller.background.breakers.Each Holds) :
    (controller.callRequest surroundings request world).2.1.breakers.Each Holds := by
  rcases callRequest_evolves surroundings controller request world with
    ⟨background, breaker, evolved, result⟩
  have kept : breaker =
      (controller.callRequest surroundings request world).2.1.breakers.breaker allocatorKey := by
    rw [result, BreakerRegistry.breaker_put_self]
  rw [result]
  refine (each.of_evolves evolved).put fun notLauncher => ?_
  rw [kept]
  simp only [callRequest, BreakerRegistry.breaker_put_self]
  exact called (Breaker.call_called ..) (each allocatorKey notLauncher)

theorem issueRequests_each (surroundings : Surroundings World) (count : Nat)
    (controller : Controller) (world : World)
    (each : controller.background.breakers.Each Holds) :
    (issueRequests surroundings count controller world).1.background.breakers.Each Holds := by
  induction count generalizing controller world with
  | zero => exact each
  | succ count ih =>
      have asked := callRequest_each called surroundings controller
        controller.nextAllocationRequest world each
      simp only [issueRequests]
      split
      · exact ih _ _ asked
      · exact asked
      · exact asked

theorem requestMissing_each (surroundings : Surroundings World) (controller : Controller)
    (world : World)
    (each : controller.background.breakers.Each Holds) :
    (controller.requestMissing surroundings world).1.background.breakers.Each Holds := by
  simp only [requestMissing]
  split
  · exact each
  · exact issueRequests_each called surroundings _ _ _ (each.ensure allocatorKey)

theorem probeAll_each (surroundings : Surroundings World) (replicas : List Replica)
    (breakers : BreakerRegistry) (world : World)
    (each : breakers.Each Holds) :
    (probeAll surroundings replicas breakers world).2.1.Each Holds := by
  induction replicas generalizing breakers world with
  | nil => exact each
  | cons replica rest ih =>
      simp only [probeAll]
      apply ih
      simp only [probe]
      exact each.put fun notLauncher =>
        called (Breaker.call_called ..) (each replica.id notLauncher)

theorem assessed_each (surroundings : Surroundings World) (controller : Controller)
    (world : World)
    (each : controller.background.breakers.Each Holds) :
    (controller.assessed surroundings world).2.1.background.breakers.Each Holds := by
  have replenished := requestMissing_each called surroundings _ world
    ((controller.expirePending (surroundings.clock world)).retryReleases_each each)
  simp only [assessed, assess, sampleReplicas_eq]
  rw [recordSamples_frame]
  exact probeAll_each called surroundings _ _ _ replenished

theorem Acted.each {target : Nat} {world : World}
    (acted : Acted surroundings before target world after)
    (each : before.background.breakers.Each Holds) : after.background.breakers.Each Holds := by
  cases acted with
  | raised => exact requestMissing_each called surroundings _ world each
  | lowered =>
      have halting :=
        (before.rescale "Scale down" target (surroundings.epoch world)).stopOldest_halted
      rcases halting with ⟨victim, halted⟩
      exact each.of_evolves halted.evolves
  | trimmed =>
      rcases before.stopOldest_halted with ⟨victim, halted⟩
      exact each.of_evolves halted.evolves
  | kept => exact each

theorem Started.each {registration : Except ClusterError Registration}
    {answer : Except ClusterError Unit}
    (started : Started surroundings before registration answer after)
    (each : before.background.breakers.Each Holds) : after.background.breakers.Each Holds := by
  cases started with
  | refused evolved => exact each.of_evolves evolved
  | @registered background evolved registration now target later =>
      rcases adoptPrevious_frame registration.previous now
        { before with background := background, available := registration.available } with
        ⟨running, aggregator, adopted⟩
      rw [adopted]
      exact requestMissing_each called surroundings _ later (each.of_evolves evolved)

variable (fresh : ∀ name settings, Holds (.fresh name settings))
include fresh

theorem Ended.each {completion : Completion} {world : World}
    (ended : Ended surroundings before completion world after)
    (each : before.background.breakers.Each Holds) : after.background.breakers.Each Holds := by
  cases ended with
  | buried => exact each
  | ignored => exact each
  | dropped => exact each.remove fresh completion.replica
  | replaced =>
      exact requestMissing_each called surroundings _ world (each.remove fresh completion.replica)

theorem Step.each {label : Label} (step : Step surroundings label before after)
    (each : before.background.breakers.Each Holds) : after.background.breakers.Each Holds := by
  cases step with
  | start world => exact (startUp_started ..).each called each
  | tick world =>
      rcases tick_acted surroundings before world with ⟨after, ticked, acted⟩
      have acting := acted.each called (assessed_each called surroundings before world each)
      rw [ticked]
      exact acting
  | event event world =>
      cases event with
      | allocated allocations =>
          exact allocated_keeps (fun reached => reached.background.breakers.Each Holds) allocations
            (fun _ _ _ _ granted held => granted.each held) each
      | completed completions =>
          exact completions_keep surroundings
            (fun reached => reached.background.breakers.Each Holds) completions
            (fun _ _ _ _ _ ended held => ended.each called fresh held) each world
      | launchFailed replica reason =>
          have ended := (onCompleted_ended surroundings before (failedLaunch replica reason)
            world).each called fresh each
          exact start_each _ (.release replica) ended
      | trouble | resourcesUpdated | shutdownRequested => exact each
  | outcome ready world => exact (onFinished_finished ..).each each
  | progress flying world => exact each.of_evolves (progress_evolves surroundings flying world)

/-- What holds of fresh breakers and is kept by whole calls, holds of all breakers but the
launcher's. -/
theorem Run.each {labels : List Label} {controller : Controller}
    (run : Run surroundings labels controller) : controller.background.breakers.Each Holds := by
  induction run with
  | initial settings =>
      intro key _
      exact fresh key settings.breaker
  | step _ step ih => exact step.each called fresh ih

end Called

end Controller

end Fleet
