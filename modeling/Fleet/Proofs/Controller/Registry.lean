import Fleet.Proofs.Controller.Rounds
import Fleet.Proofs.Controller.Transition

/-!
# Who has a breaker

The registry makes the breaker of a dependency when it is first used. The allocator is used by
requests, the launcher by launches and stops, and a replica by its probes, while it runs. So nobody
else ever has a breaker.
-/

namespace Fleet

/-- Whoever has a breaker is the allocator, the launcher, or has one of some names. -/
def BreakerRegistry.Within (names : List String) (registry : BreakerRegistry) : Prop :=
  ∀ key ∈ registry.breakers.keys, key = allocatorKey ∨ key = launcherKey ∨ key ∈ names

namespace BreakerRegistry.Within

variable {names more : List String} {registry : BreakerRegistry}

theorem put (within : registry.Within names) {key : String} (kept : Breaker)
    (allowed : key = allocatorKey ∨ key = launcherKey ∨ key ∈ names) :
    (registry.put key kept).Within names := by
  intro other member
  rcases SortedMap.mem_keys_insert.mp member with rfl | old
  · exact allowed
  · exact within other old

theorem putAllocator (within : registry.Within names) (kept : Breaker) :
    (registry.put allocatorKey kept).Within names :=
  within.put kept (.inl rfl)

theorem putLauncher (within : registry.Within names) (kept : Breaker) :
    (registry.put launcherKey kept).Within names :=
  within.put kept (.inr (.inl rfl))

theorem mono (within : registry.Within names) (subset : names ⊆ more) : registry.Within more :=
  fun key member => (within key member).imp_right (Or.imp_right fun named => subset named)

theorem remove (within : registry.Within names) (key : String) :
    (registry.remove key).Within (names.erase key) := by
  intro other member
  rcases SortedMap.mem_keys_erase.mp member with ⟨different, old⟩
  exact (within other old).imp_right (Or.imp_right (List.mem_erase_of_ne different).mpr)

end BreakerRegistry.Within

namespace Background

variable {World : Type} {names : List String} {background : Background}

theorem changeLauncher_within (within : background.breakers.Within names) (number : Nat)
    (change : Breaker → Breaker) :
    (background.changeLauncher number change).breakers.Within names := by
  simp only [changeLauncher]
  split
  · exact within
  · exact within.putLauncher _

theorem start_within (within : background.breakers.Within names) (work : Work) :
    (background.start work).breakers.Within names := by
  simp only [start]
  split
  · exact within.putLauncher _
  · exact within

theorem keep_within (within : background.breakers.Within names) (job : Job) (now : Instant)
    (progress : Progress) : (background.keep job now progress).breakers.Within names := by
  cases progress with
  | waiting | lost => exact within
  | finished result =>
      have kept : ({ background with
          finished := background.finished ++ [(job.work, result)] } :
            Background).breakers.Within names := within
      simp only [keep]
      cases job.guarding with
      | none => exact kept
      | some number => exact changeLauncher_within kept number _

theorem stepJob_within (surroundings : Surroundings World) (settings : ControllerSettings)
    (within : background.breakers.Within names) (world : World) (job : Job) :
    (stepJob surroundings settings (background, world) job).1.breakers.Within names := by
  simp only [stepJob]
  split
  · cases job.stage with
    | unstarted =>
        simp only [begin]
        cases job.guarding with
        | none => exact keep_within within job _ _
        | some number =>
            have asked := changeLauncher_within within number
              fun breaker => (breaker.allow (surroundings.clock world)).2
            dsimp only
            split
            · exact keep_within asked job _ _
            · exact asked
    | waiting left delay wake => exact keep_within within job _ _
  · exact within

theorem waitRounds_within (surroundings : Surroundings World) (settings : ControllerSettings)
    (handle : Handle) (wake : Instant) (rounds : Nat)
    (within : background.breakers.Within names) (world : World) :
    (background.waitRounds surroundings settings handle wake rounds
      world).2.1.breakers.Within names := by
  induction rounds generalizing background world with
  | zero => exact within
  | succ rounds ih =>
      have ran : (background.runReady surroundings settings world).1.breakers.Within names := by
        apply List.foldlRecOn background.jobs (stepJob surroundings settings)
          (motive := fun state => state.1.breakers.Within names)
        · exact within
        · intro state held job _
          exact stepJob_within surroundings settings held state.2 job
      simp only [waitRounds]
      split
      · exact within
      · split
        · exact within
        · exact ih ran _

end Background

namespace Controller

variable {World : Type} {surroundings : Surroundings World} {before after : Controller}
  {names : List String}

/-- A call of the cluster lets background work go on, which may use the launcher. -/
theorem callBeside_within {Value : Type} (surroundings : Surroundings World)
    (controller : Controller) (operation : World → Except ClusterError Value × World)
    {state : Background × World} (within : state.1.breakers.Within names) :
    (controller.callBeside surroundings operation state).2.1.breakers.Within names := by
  apply RetryPolicy.call_keeps fun reached : Background × World =>
    reached.1.breakers.Within names
  · intro reached held
    exact held
  · intro duration reached held
    exact Background.waitRounds_within surroundings controller.settings _ _ _ held reached.2
  · exact within

theorem callRequest_within (surroundings : Surroundings World) (controller : Controller)
    (request : AllocationRequest) (within : controller.background.breakers.Within names)
    (world : World) :
    (controller.callRequest surroundings request world).2.1.breakers.Within names := by
  have called := Breaker.call_keeps (controller.background.breakers.breaker allocatorKey)
    (fun state => surroundings.clock state.2)
    (controller.callBeside surroundings (surroundings.request request))
    (fun reached => reached.1.breakers.Within names)
    (fun _ held => callBeside_within surroundings controller _ held)
    (controller.background, world) within
  exact BreakerRegistry.Within.putAllocator called _

theorem issueRequests_within (surroundings : Surroundings World) (count : Nat)
    {controller : Controller} (within : controller.background.breakers.Within names)
    (world : World) :
    (issueRequests surroundings count controller world).1.background.breakers.Within names := by
  induction count generalizing controller world with
  | zero => exact within
  | succ count ih =>
      have called := callRequest_within surroundings controller
        controller.nextAllocationRequest within world
      simp only [issueRequests]
      split
      · exact ih called _
      · exact called
      · exact called

theorem requestMissing_within (surroundings : Surroundings World) (controller : Controller)
    (within : controller.background.breakers.Within names) (world : World) :
    (controller.requestMissing surroundings world).1.background.breakers.Within names := by
  simp only [requestMissing]
  split
  · exact within
  · exact issueRequests_within surroundings _ (within.putAllocator _) world

theorem retryReleases_within (controller : Controller)
    (within : controller.background.breakers.Within names) :
    controller.retryReleases.background.breakers.Within names := by
  apply List.foldlRecOn controller.unreleased.keys
    (motive := fun reached : Controller => reached.background.breakers.Within names)
  · exact within
  · intro reached held id _
    exact Background.start_within held (.release id)

theorem probeAll_within (surroundings : Surroundings World) (replicas : List Replica)
    {breakers : BreakerRegistry} (within : breakers.Within names)
    (named : ∀ replica ∈ replicas, replica.id ∈ names) (world : World) :
    (probeAll surroundings replicas breakers world).2.1.Within names := by
  induction replicas generalizing breakers world with
  | nil => exact within
  | cons replica rest ih =>
      have others : ∀ other ∈ rest, other.id ∈ names := fun other member =>
        named other (List.mem_cons_of_mem _ member)
      exact ih (within.put _ (.inr (.inr (named replica List.mem_cons_self)))) others _

/-- Before a round decides, it uses the allocator, the launcher and the running set. -/
theorem assessed_within (surroundings : Surroundings World) {controller : Controller}
    (within : controller.background.breakers.Within (controller.running.map Replica.id))
    (world : World) :
    (controller.assessed surroundings world).2.1.background.breakers.Within
      (controller.running.map Replica.id) := by
  have frame := (replenish_replenished surroundings controller (surroundings.clock world)
    world).frame
  have replenished : (controller.replenish surroundings (surroundings.clock world)
      world).1.background.breakers.Within (controller.running.map Replica.id) :=
    requestMissing_within surroundings _
      ((controller.expirePending (surroundings.clock world)).retryReleases_within within) world
  simp only [assessed, assess, sampleReplicas_eq]
  rw [recordSamples_frame]
  apply probeAll_within surroundings _ replenished
  intro replica active
  have running := List.mem_of_mem_filter active
  rw [frame] at running
  exact List.mem_map_of_mem running

theorem Acted.within {target : Nat} {world : World}
    (acted : Acted surroundings before target world after)
    (within : before.background.breakers.Within names) :
    after.background.breakers.Within names := by
  have stopped (controller : Controller)
      (same : controller.background.breakers.Within names) :
      controller.stopOldest.background.breakers.Within names := by
    simp only [stopOldest]
    split
    · exact same
    · exact Background.start_within same _
  cases acted with
  | raised =>
      exact requestMissing_within surroundings
        (before.rescale "Scale up" target (surroundings.epoch world)) within world
  | lowered => exact stopped _ within
  | trimmed => exact stopped _ within
  | kept => exact within

/-! ## The running set -/

/-- Whoever has a breaker is the allocator, the launcher or a running replica. -/
def Guarded (controller : Controller) : Prop :=
  controller.background.breakers.Within (controller.running.map Replica.id)

theorem guarded_publish {controller : Controller} (guarded : controller.Guarded) :
    controller.publish.Guarded := guarded

theorem requestMissing_guarded (surroundings : Surroundings World) (controller : Controller)
    (guarded : controller.Guarded) (world : World) :
    (controller.requestMissing surroundings world).1.Guarded := by
  rw [Guarded, (requestMissing_requested ..).sameRoster.ids]
  exact requestMissing_within surroundings controller guarded world

/-- A completed replica loses its breaker. -/
theorem dropReplica_guarded {controller : Controller} (guarded : controller.Guarded)
    (id : String) : (controller.dropReplica id).Guarded := by
  simp only [Guarded, dropReplica, map_eraseP_id]
  exact BreakerRegistry.Within.remove guarded id

theorem Ended.guarded {completion : Completion} {world : World}
    (ended : Ended surroundings before completion world after) (guarded : before.Guarded) :
    after.Guarded := by
  cases ended with
  | buried | ignored => exact guarded
  | dropped => exact dropReplica_guarded guarded _
  | replaced =>
      have alerted (alert : Alert) :
          ((before.dropReplica completion.replica).alert alert).Guarded :=
        dropReplica_guarded guarded completion.replica
      exact requestMissing_guarded surroundings _ (alerted _) world

theorem onCompletions_guarded (completions : List Completion) (guarded : before.Guarded)
    (world : World) : (onCompletions surroundings completions before world).1.Guarded :=
  completions_keep surroundings Guarded completions (fun _ _ _ _ _ ended held => ended.guarded held)
    guarded world

theorem adopt_guarded (guarded : before.Guarded) (replica : Replica) (now : Nat) :
    (before.adopt replica now).Guarded := by
  apply BreakerRegistry.Within.mono guarded
  simp [adopt]

theorem adoptPrevious_guarded {controller : Controller} (guarded : controller.Guarded)
    (previous : List Allocation) (now : Nat) :
    (controller.adoptPrevious previous now).Guarded :=
  adoptPrevious_keeps Guarded previous now
    (fun allocation _ _ _ held => adopt_guarded held allocation.toReplica now) guarded

theorem startUp_guarded (surroundings : Surroundings World) {controller : Controller}
    (guarded : controller.Guarded) (world : World) :
    (controller.startUp surroundings world).2.1.Guarded := by
  have registered : (controller.callRegister surroundings world).2.1.breakers.Within
      (controller.running.map Replica.id) :=
    callBeside_within surroundings controller surroundings.register guarded
  simp only [startUp]
  generalize controller.callRegister surroundings world = called at registered ⊢
  rcases called with ⟨_ | registration, background, later⟩
  · exact registered
  · have called : ({ controller with
        background := background
        available := registration.available } : Controller).Guarded := registered
    have adopted := adoptPrevious_guarded called registration.previous (surroundings.epoch later)
    dsimp only
    generalize adoptPrevious _ registration.previous (surroundings.epoch later) = reached
      at adopted ⊢
    have targeted (target : Nat) : ({ reached with target := target } : Controller).Guarded :=
      adopted
    exact guarded_publish (requestMissing_guarded surroundings _ (targeted _) later)

theorem tick_guarded (surroundings : Surroundings World) {controller : Controller}
    (guarded : controller.Guarded) (world : World) :
    (controller.tick surroundings world).1.Guarded := by
  rcases tick_acted surroundings controller world with ⟨after, ticked, acted⟩
  have used := acted.within (assessed_within surroundings guarded world)
  rw [Guarded, (tick_ticked surroundings controller world).ids, ticked]
  exact used

theorem Granted.guarded {allocation : Allocation} (granted : Granted before allocation after)
    (guarded : before.Guarded) : after.Guarded := by
  cases granted with
  | ignored => exact guarded
  | released => exact Background.start_within guarded (.release allocation.replica)
  | accepted => exact Background.start_within guarded (.launch allocation.toReplica)

theorem Finished.guarded {work : Work} {result : Except ClusterError Unit} {now : Nat}
    (finished : Finished before now work result after) (guarded : before.Guarded) :
    after.Guarded := by
  cases finished with
  | @launched replica _ _ landed =>
      cases landed with
      | discarded => exact guarded
      | adopted =>
          have landed : ({ before with
              launching := before.launching.erase replica.id } : Controller).Guarded := guarded
          exact guarded_publish (adopt_guarded landed replica now)
      | failed => exact Background.start_within guarded (.release replica.id)
  | stopped _ _ ids =>
      rw [Guarded, ids]
      exact guarded
  | released => exact guarded

theorem Step.guarded {label : Label} (step : Step surroundings label before after)
    (guarded : before.Guarded) : after.Guarded := by
  cases step with
  | start world => exact startUp_guarded surroundings guarded world
  | tick world => exact tick_guarded surroundings guarded world
  | event event world =>
      apply guarded_publish
      cases event with
      | allocated allocations =>
          exact allocated_keeps Guarded allocations
            (fun _ _ _ _ granted held => granted.guarded held) guarded
      | completed completions => exact onCompletions_guarded completions guarded world
      | launchFailed replica reason =>
          exact Background.start_within ((onCompleted_ended ..).guarded guarded) (.release replica)
      | trouble | resourcesUpdated | shutdownRequested => exact guarded
  | @outcome _ earlier later work result ready world =>
      have taken : (before.withFinished (earlier ++ later)).Guarded := guarded
      exact (onFinished_finished ..).guarded taken
  | @progress _ earlier later job flying world =>
      have others : ({ before.background with
          jobs := earlier ++ later } : Background).breakers.Within
            (before.running.map Replica.id) := guarded
      exact Background.stepJob_within surroundings before.settings others world job

/-- In every run only the allocator, the launcher and the running replicas have a breaker. -/
theorem Run.guarded {labels : List Label} {controller : Controller}
    (run : Run surroundings labels controller) : controller.Guarded := by
  induction run with
  | initial settings => exact fun key member => absurd member List.not_mem_nil
  | step _ step ih => exact step.guarded ih

end Controller

end Fleet
