import Fleet.Proofs.Controller.Commitment

/-!
# Failover

With an allocator that takes every request, what is committed reaches the target whenever the
controller looks for what is missing and the allocator's breaker admits its first request. That
breaker stays closed while calls succeed, unless a container of the same name is probed through
it.
-/

namespace Fleet.Controller

variable {World : Type} {surroundings : Surroundings World} {before after : Controller}

/-- As much as the target is committed. -/
def MeetsTarget (controller : Controller) : Prop := controller.target ≤ controller.committed

/-- The allocator's breaker is closed. -/
def AllocatorClosed (controller : Controller) : Prop :=
  (controller.background.breakers.breaker allocatorKey).state = .closed

/-- The allocator's breaker admits a request that is made now. -/
def Admits (controller : Controller) (now : Instant) : Prop :=
  ((controller.background.breakers.breaker allocatorKey).allow now).1 = true

theorem AllocatorClosed.admits (closed : AllocatorClosed before) (now : Instant) :
    before.Admits now := by
  rw [Admits, Breaker.allow_of_closed closed]

theorem allocatorKey_ne_launcherKey : allocatorKey ≠ launcherKey := by decide

theorem admits_iff_of_evolves {added : Multiset Work}
    (evolved : Background.Evolves added before.background after.background) (now : Instant) :
    after.Admits now ↔ before.Admits now := by
  rw [Admits, Admits, evolved.breaker allocatorKey allocatorKey_ne_launcherKey]

theorem AllocatorClosed.of_evolves {added : Multiset Work} (closed : AllocatorClosed before)
    (evolved : Background.Evolves added before.background after.background) :
    AllocatorClosed after := by
  simp only [AllocatorClosed]
  rw [evolved.breaker allocatorKey allocatorKey_ne_launcherKey]
  exact closed

theorem AllocatorClosed.alert (closed : AllocatorClosed before) (alert : Alert) :
    AllocatorClosed (before.alert alert) := closed

theorem AllocatorClosed.rescale (closed : AllocatorClosed before) (event : String)
    (target now : Nat) : AllocatorClosed (before.rescale event target now) := closed

theorem AllocatorClosed.withFinished (closed : AllocatorClosed before)
    (finished : List (Work × Except ClusterError Unit)) :
    AllocatorClosed (before.withFinished finished) := closed

theorem AllocatorClosed.start (closed : AllocatorClosed before) (work : Work) :
    AllocatorClosed (before.start work) :=
  closed.of_evolves (before.background.start_evolves work)

theorem Granted.allocatorClosed {allocation : Allocation}
    (granted : Granted before allocation after) (closed : AllocatorClosed before) :
    AllocatorClosed after := by
  cases granted with
  | ignored => exact closed
  | released => exact closed.start (.release allocation.replica)
  | accepted => exact closed.start (.launch allocation.toReplica)

/-- Dropping a replica drops the breaker of its name, and a new one admits every call. -/
theorem admits_dropReplica_iff (controller : Controller) (id : String) (now : Instant) :
    (controller.dropReplica id).Admits now ↔ id = allocatorKey ∨ controller.Admits now := by
  change (((controller.background.breakers.remove id).breaker allocatorKey).allow now).1 = true ↔ _
  rw [BreakerRegistry.breaker_remove]
  by_cases shared : allocatorKey = id
  · rw [if_pos shared, Breaker.allow_of_closed rfl]
    simp [shared]
  · rw [if_neg shared, Admits]
    simp [Ne.symm shared]

theorem AllocatorClosed.dropReplica (closed : AllocatorClosed before) (id : String) :
    AllocatorClosed (before.dropReplica id) := by
  change ((before.background.breakers.remove id).breaker allocatorKey).state = .closed
  rw [BreakerRegistry.breaker_remove]
  split
  · rfl
  · exact closed

theorem AllocatorClosed.sampled (closed : AllocatorClosed before)
    (sampled : Sampled before after) (unshared : allocatorKey ∉ before.known) :
    AllocatorClosed after := by
  rw [AllocatorClosed, sampled.breaker allocatorKey]
  · exact closed
  · exact fun running => unshared (List.mem_append_left _ running)

theorem Finished.allocatorClosed {work : Work} {result : Except ClusterError Unit} {now : Nat}
    (finished : Finished before now work result after) (closed : AllocatorClosed before) :
    AllocatorClosed after := by
  cases finished with
  | @launched replica _ _ landed =>
      cases landed with
      | discarded => exact closed
      | adopted => exact closed
      | failed => exact closed.start (.release replica.id)
  | stopped => exact closed
  | released => exact closed

/-! ## Requests -/

section Answered

variable (answered : ∀ request world, (surroundings.request request world).1 = .ok ())
include answered

theorem callRequest_answered {controller : Controller} {world : World}
    (admitted : controller.Admits (surroundings.clock world)) (request : AllocationRequest) :
    ∃ breaker later, breaker.state = .closed ∧
      controller.callRequest surroundings request world =
        (.ok (), { controller.background with
          breakers := controller.background.breakers.put allocatorKey breaker }, later) := by
  have succeeds : controller.callBeside surroundings (surroundings.request request)
      (controller.background, world) =
        (.ok (), controller.background, (surroundings.request request world).2) := by
    apply RetryPolicy.call_eq_ok
    rw [← answered request world]
  have calling := Breaker.call_of_allowed
    (fun state : Background × World => surroundings.clock state.2) succeeds admitted
  rcases calling with ⟨breaker, called, closed⟩
  refine ⟨breaker, (surroundings.request request world).2, closed, ?_⟩
  simp only [callRequest, called]
  rfl

/-- Where the first request is admitted, all requests are: a success closes the breaker. -/
theorem issueRequests_answered (count : Nat) (controller : Controller) (world : World)
    (admitted : controller.Admits (surroundings.clock world)) :
    (AllocatorClosed controller →
        AllocatorClosed (issueRequests surroundings count controller world).1) ∧
      (issueRequests surroundings count controller world).1.pending.length =
        controller.pending.length + count := by
  induction count generalizing controller world with
  | zero => exact ⟨id, rfl⟩
  | succ count ih =>
      rcases callRequest_answered answered admitted controller.nextAllocationRequest with
        ⟨breaker, later, closed, called⟩
      have reclosed : AllocatorClosed { controller with
          background := { controller.background with
            breakers := controller.background.breakers.put allocatorKey breaker }
          nextRequest := controller.nextRequest + 1
          pending := controller.pending ++
            [(controller.nextRequest, surroundings.clock later)] } := by
        rw [AllocatorClosed, BreakerRegistry.breaker_put_self]
        exact closed
      rcases ih _ later (reclosed.admits _) with ⟨closedAfter, length⟩
      simp only [issueRequests, called]
      refine ⟨fun _ => closedAfter reclosed, length.trans ?_⟩
      rw [List.length_append, List.length_singleton]
      omega

omit answered in
theorem issueRequests_refused (count : Nat) {controller : Controller} {world : World}
    (refused : ¬controller.Admits (surroundings.clock world)) :
    (issueRequests surroundings count controller world).1.pending = controller.pending := by
  cases count with
  | zero => rfl
  | succ count =>
      simp only [issueRequests]
      rw [callRequest_of_refused controller.nextAllocationRequest refused]

omit answered in
theorem admits_ensure_iff (controller : Controller) (now : Instant) :
    ({ controller with
      background := { controller.background with
        breakers := controller.background.breakers.ensure allocatorKey } } : Controller).Admits
          now ↔ controller.Admits now := by
  rw [Admits, Admits, BreakerRegistry.breaker_ensure]

theorem requestMissing_admitted {controller : Controller} {world : World}
    (admitted : controller.Admits (surroundings.clock world)) :
    (AllocatorClosed controller →
        AllocatorClosed (controller.requestMissing surroundings world).1) ∧
      (controller.requestMissing surroundings world).1.MeetsTarget := by
  have requested := requestMissing_requested surroundings controller world
  rw [MeetsTarget, requested.target_eq, committed, requested.activeCount_eq,
    requested.sameRoster.launching]
  simp only [requestMissing]
  split
  · next nothing =>
      refine ⟨id, ?_⟩
      simp only [committed] at nothing ⊢
      omega
  · rcases issueRequests_answered answered (controller.target - controller.committed) _ world
      ((admits_ensure_iff controller _).mpr admitted) with ⟨closedAfter, length⟩
    refine ⟨fun closed => closedAfter ?_, ?_⟩
    · rw [AllocatorClosed, BreakerRegistry.breaker_ensure]
      exact closed
    · rw [length]
      simp only [committed]
      omega

omit answered in
theorem requestMissing_refused {controller : Controller} {world : World}
    (refused : ¬controller.Admits (surroundings.clock world)) :
    (controller.requestMissing surroundings world).1.committed = controller.committed := by
  have requested := requestMissing_requested surroundings controller world
  rw [committed, requested.activeCount_eq, requested.sameRoster.launching]
  simp only [requestMissing]
  split
  · rfl
  · rw [issueRequests_refused _ (mt (admits_ensure_iff controller _).mp refused)]
    rfl

/-- What is missing is requested exactly where the allocator's breaker admits the first request. -/
theorem requestMissing_meetsTarget_iff (controller : Controller) (world : World) :
    (controller.requestMissing surroundings world).1.MeetsTarget ↔
      controller.MeetsTarget ∨ controller.Admits (surroundings.clock world) := by
  by_cases admitted : controller.Admits (surroundings.clock world)
  · exact iff_of_true (requestMissing_admitted answered admitted).2 (Or.inr admitted)
  · rw [MeetsTarget, requestMissing_refused admitted, (requestMissing_requested ..).target_eq]
    exact (or_iff_left admitted).symm

theorem requestMissing_answered (controller : Controller) (world : World)
    (closed : AllocatorClosed controller) :
    AllocatorClosed (controller.requestMissing surroundings world).1 ∧
      (controller.requestMissing surroundings world).1.MeetsTarget :=
  (requestMissing_admitted answered (closed.admits _)).imp_left (· closed)

/-! ## Starting -/

theorem Started.meetsTarget {registration : Except ClusterError Registration}
    {answer : Except ClusterError Unit}
    (started : Started surroundings before registration answer after)
    (closed : AllocatorClosed before) :
    AllocatorClosed after ∧ (answer = .ok () → after.MeetsTarget) := by
  cases started with
  | refused evolved => exact ⟨closed.of_evolves evolved, fun impossible => by cases impossible⟩
  | @registered background evolved registration now target world =>
      rcases adoptPrevious_frame registration.previous now
        { before with background := background, available := registration.available } with
        ⟨running, aggregator, adopted⟩
      rw [adopted]
      have found := requestMissing_answered answered { before with
        background := background
        available := registration.available
        running := running
        aggregator := aggregator
        target := target } world (closed.of_evolves evolved)
      exact ⟨found.1, fun _ => found.2⟩

/-! ## Rounds -/

theorem replenish_meetsTarget_iff (controller : Controller) (now : Instant) (world : World) :
    (controller.replenish surroundings now world).1.MeetsTarget ↔
      (controller.expirePending now).MeetsTarget ∨
        controller.Admits (surroundings.clock world) := by
  rcases (controller.expirePending now).retryReleases_frame with ⟨background, retried, evolved⟩
  have first : (controller.expirePending now).retryReleases.Admits (surroundings.clock world) ↔
      controller.Admits (surroundings.clock world) := by
    rw [retried]
    exact admits_iff_of_evolves evolved _
  rw [replenish, requestMissing_meetsTarget_iff answered, first, retried]
  exact Iff.rfl

theorem replenish_answered (controller : Controller) (now : Instant) (world : World)
    (closed : AllocatorClosed controller) :
    AllocatorClosed (controller.replenish surroundings now world).1 := by
  rcases (controller.expirePending now).retryReleases_frame with ⟨background, retried, evolved⟩
  refine (requestMissing_answered answered _ world ?_).1
  rw [retried]
  exact closed.of_evolves evolved

theorem Acted.meetsTarget {target : Nat} {world : World}
    (acted : Acted surroundings before target world after) (closed : AllocatorClosed before)
    (enough : before.MeetsTarget) : AllocatorClosed after ∧ after.MeetsTarget := by
  simp only [MeetsTarget] at enough ⊢
  cases acted with
  | raised =>
      exact requestMissing_answered answered _ world (closed.rescale "Scale up" target _)
  | lowered lower =>
      have halting :=
        (before.rescale "Scale down" target (surroundings.epoch world)).stopOldest_halted
      rcases halting with ⟨victim, halted⟩
      have counted : _ = before.committed := halted.committed_eq
      have atMostOne : victim.toList.length ≤ 1 := by cases victim <;> simp
      refine ⟨(closed.rescale "Scale down" target _).of_evolves halted.evolves, ?_⟩
      rw [halted.target_eq]
      simp only [rescale, alert] at counted ⊢
      omega
  | trimmed same excess =>
      rcases before.stopOldest_halted with ⟨victim, halted⟩
      have active := halted.activeCount_eq
      have atMostOne : victim.toList.length ≤ 1 := by cases victim <;> simp
      refine ⟨closed.of_evolves halted.evolves, ?_⟩
      rw [halted.target_eq, committed]
      omega
  | kept => exact ⟨closed, enough⟩

omit answered in
theorem Acted.meetsTarget_iff_of_same {target : Nat} {world : World}
    (acted : Acted surroundings before target world after) (same : after.target = before.target) :
    after.MeetsTarget ↔ before.MeetsTarget := by
  have decided := acted.target_eq
  cases acted with
  | raised higher => omega
  | lowered lower => omega
  | trimmed _ excess =>
      rcases before.stopOldest_halted with ⟨victim, halted⟩
      have active := halted.activeCount_eq
      have atMostOne : victim.toList.length ≤ 1 := by cases victim <;> simp
      simp only [MeetsTarget, committed, halted.target_eq]
      omega
  | kept => exact Iff.rfl

theorem Acted.meetsTarget_iff_of_raised {target : Nat} {world : World}
    (acted : Acted surroundings before target world after)
    (higher : before.target < after.target) :
    after.MeetsTarget ↔
      after.target ≤ before.committed ∨ before.Admits (surroundings.clock world) := by
  have decided := acted.target_eq
  cases acted with
  | raised =>
      rw [requestMissing_meetsTarget_iff answered, decided]
      exact Iff.rfl
  | lowered lower => omega
  | trimmed same => omega
  | kept same => omega

theorem tick_answered (controller : Controller) (world : World)
    (closed : AllocatorClosed controller) (unshared : allocatorKey ∉ controller.known) :
    AllocatorClosed (controller.tick surroundings world).1 ∧
      (controller.tick surroundings world).1.MeetsTarget := by
  have replenished := replenish_replenished surroundings controller (surroundings.clock world)
    world
  have enough := (replenish_meetsTarget_iff answered controller (surroundings.clock world)
    world).mpr (Or.inr (closed.admits _))
  have stillClosed := replenish_answered answered controller (surroundings.clock world) world closed
  have sampling := assessed_sampled surroundings controller world
  have unsharedStill := replenished.sameRoster.known_eq.symm ▸ unshared
  rcases tick_acted surroundings controller world with ⟨after, ticked, acted⟩
  rw [MeetsTarget, ← sampling.target_eq, ← sampling.committed_eq] at enough
  have reached := acted.meetsTarget answered (stillClosed.sampled sampling unsharedStill) enough
  rw [ticked]
  exact reached

/-- A round that keeps the target makes good what is missing exactly where its first request is
admitted. -/
theorem tick_meetsTarget_iff_of_same (controller : Controller) (world : World)
    (same : (controller.tick surroundings world).1.target = controller.target) :
    (controller.tick surroundings world).1.MeetsTarget ↔
      (controller.expirePending (surroundings.clock world)).MeetsTarget ∨
        controller.Admits (surroundings.clock world) := by
  have sampling := assessed_sampled surroundings controller world
  rcases tick_acted surroundings controller world with ⟨after, ticked, acted⟩
  rw [ticked] at same ⊢
  calc
    after.MeetsTarget
      ↔ (controller.assessed surroundings world).2.1.MeetsTarget :=
        acted.meetsTarget_iff_of_same
          (same.trans (assessed_target surroundings controller world).symm)
    _ ↔ (controller.replenish surroundings (surroundings.clock world) world).1.MeetsTarget := by
        rw [MeetsTarget, MeetsTarget, sampling.target_eq, sampling.committed_eq]
    _ ↔ _ := replenish_meetsTarget_iff answered controller (surroundings.clock world) world

/-- A round that raises the target makes good what is missing exactly where the request after the
decision is admitted. -/
theorem tick_meetsTarget_iff_of_raised (controller : Controller) (world : World)
    (higher : controller.target < (controller.tick surroundings world).1.target) :
    (controller.tick surroundings world).1.MeetsTarget ↔
      (controller.tick surroundings world).1.target ≤
          (controller.assessed surroundings world).2.1.committed ∨
        (controller.assessed surroundings world).2.1.Admits
          (surroundings.clock (controller.assessed surroundings world).2.2) := by
  rcases tick_acted surroundings controller world with ⟨after, ticked, acted⟩
  rw [ticked] at higher ⊢
  exact acted.meetsTarget_iff_of_raised answered
    ((assessed_target surroundings controller world).trans_lt higher)

/-! ## Completions -/

theorem Ended.allocatorClosed {completion : Completion} {world : World}
    (ended : Ended surroundings before completion world after) (closed : AllocatorClosed before) :
    AllocatorClosed after := by
  cases ended with
  | buried => exact closed
  | ignored => exact closed
  | dropped => exact closed.dropReplica completion.replica
  | replaced =>
      have dropped := closed.dropReplica completion.replica
      exact (requestMissing_answered answered _ world (dropped.alert _)).1

theorem AllocatorClosed.completed (completions : List Completion) (world : World)
    (closed : AllocatorClosed before) :
    AllocatorClosed (onCompletions surroundings completions before world).1 :=
  completions_keep surroundings AllocatorClosed completions
    (fun _ _ _ _ _ ended held => ended.allocatorClosed answered held) closed world

omit answered in
/-- The completion of an active replica is that of the one that is found under its name. -/
theorem Ended.replaced_of_active {completion : Completion} {world : World} {replica : Replica}
    (ended : Ended surroundings before completion world after) (identified : Identified before)
    (running : replica ∈ before.running) (active : replica.isActive = true)
    (completed : completion.replica = replica.id) :
    (before.dropReplica completion.replica).committed + 1 = before.committed ∧
      after = (((before.dropReplica completion.replica).alert
        (.containerFailure completion.replica completion.reason
          (surroundings.epoch world))).requestMissing surroundings world).1 := by
  rcases List.nodup_append.mp identified.distinct with ⟨distinct, -, apart⟩
  have running_mem : completion.replica ∈ before.running.map Replica.id :=
    List.mem_map.mpr ⟨replica, running, completed.symm⟩
  cases ended with
  | buried launching =>
      exact absurd rfl (apart _ running_mem _ (SortedMap.contains_iff_mem_keys.mp launching))
  | ignored unknown =>
      exact absurd (List.mem_append_left _ running_mem) (isKnown_eq_false_iff.mp unknown)
  | @dropped _ found first stopping =>
      have found_id : found.id = replica.id := by
        rw [← completed]
        simpa using List.find?_some first
      have same := List.inj_on_of_nodup_map distinct (List.mem_of_find?_eq_some first) running
        found_id
      rw [← same, Replica.isActive, stopping] at active
      cases active
  | @replaced _ found first notStopping =>
      have dropped := dropReplica_committed first
      have foundActive : found.isActive = true := by
        rw [Replica.isActive, notStopping]
        rfl
      rw [if_pos foundActive] at dropped
      exact ⟨dropped, rfl⟩

/-- The completion of an active replica is made good at once, exactly where the replica was not
needed, or the request for another one is admitted. -/
theorem Ended.meetsTarget_iff {completion : Completion} {world : World} {replica : Replica}
    (ended : Ended surroundings before completion world after) (identified : Identified before)
    (running : replica ∈ before.running) (active : replica.isActive = true)
    (completed : completion.replica = replica.id) :
    after.MeetsTarget ↔ before.target < before.committed ∨
      completion.replica = allocatorKey ∨ before.Admits (surroundings.clock world) := by
  rcases ended.replaced_of_active identified running active completed with ⟨fewer, replaced⟩
  have spare : (before.dropReplica completion.replica).MeetsTarget ↔
      before.target < before.committed := by
    change before.target ≤ _ ↔ _
    omega
  rw [replaced, requestMissing_meetsTarget_iff answered, ← spare,
    ← admits_dropReplica_iff before completion.replica]
  exact Iff.rfl

/-- In every step the allocator's breaker stays closed, unless it is shared. -/
theorem Step.allocatorClosed {label : Label} (step : Step surroundings label before after)
    (closed : AllocatorClosed before) (unshared : allocatorKey ∉ before.known) :
    AllocatorClosed after := by
  cases step with
  | start world => exact ((startUp_started ..).meetsTarget answered closed).1
  | tick world => exact (tick_answered answered before world closed unshared).1
  | event event world =>
      cases event with
      | allocated allocations =>
          exact allocated_keeps AllocatorClosed allocations
            (fun _ _ _ _ granted held => granted.allocatorClosed held) closed
      | completed completions => exact AllocatorClosed.completed answered completions world closed
      | launchFailed replica reason =>
          have ended := (onCompleted_ended surroundings before (failedLaunch replica reason)
            world).allocatorClosed answered closed
          exact ended.start (.release replica)
      | trouble | resourcesUpdated | shutdownRequested => exact closed
  | outcome ready world =>
      exact (onFinished_finished ..).allocatorClosed (closed.withFinished _)
  | progress flying world => exact closed.of_evolves (progress_evolves surroundings flying world)

theorem Run.allocatorClosed {labels : List Label} {controller : Controller}
    (run : Run surroundings labels controller) (unshared : allocatorKey ∉ grants labels) :
    AllocatorClosed controller := by
  induction run with
  | initial settings => rfl
  | step earlier step ih =>
      rw [grants_append, List.mem_append, not_or] at unshared
      exact step.allocatorClosed answered (ih unshared.1)
        (fun known => unshared.1 (earlier.known_granted allocatorKey known))

theorem Run.completed_meetsTarget_iff {labels : List Label} {controller : Controller}
    (run : Run surroundings labels controller) (earlier : List Completion)
    (completion : Completion) (world : World) (replica : Replica)
    (running : replica ∈ (onCompletions surroundings earlier controller world).1.running)
    (active : replica.isActive = true) (completed : completion.replica = replica.id) :
    (onCompletions surroundings (earlier ++ [completion]) controller world).1.MeetsTarget ↔
      (onCompletions surroundings earlier controller world).1.target <
          (onCompletions surroundings earlier controller world).1.committed ∨
        completion.replica = allocatorKey ∨
        (onCompletions surroundings earlier controller world).1.Admits
          (surroundings.clock (onCompletions surroundings earlier controller world).2) := by
  rw [onCompletions_append]
  exact (onCompleted_ended ..).meetsTarget_iff answered (run.identified.completed earlier world)
    running active completed

end Answered

/-- Failover is complete. With an allocator that takes every request, as much as the target is
committed after every start and every round, and as soon as the completion of an active replica was
handled, in every run in which no container has the name of the allocator's breaker. And no batch
of grants, in any run, takes what is committed below the target. In other runs it is up to that
breaker: a round that keeps the target, or raises it, and a completion leave as much as the target
committed exactly where nothing was missing, or the breaker admitted the request for it. -/
theorem failover_is_complete
    (answered : ∀ request world, (surroundings.request request world).1 = .ok ())
    {labels : List Label} {controller : Controller} (run : Run surroundings labels controller) :
    (controller.MeetsTarget → ∀ allocations world,
      (controller.handleEvent surroundings (.allocated allocations) world).1.MeetsTarget) ∧
    (allocatorKey ∉ grants labels →
      (∀ world, (controller.startUp surroundings world).1 = .ok () →
        (controller.startUp surroundings world).2.1.MeetsTarget) ∧
      (∀ world, (controller.tick surroundings world).1.MeetsTarget) ∧
      (∀ earlier completion world replica,
        replica ∈ (onCompletions surroundings earlier controller world).1.running →
          replica.isActive = true → completion.replica = replica.id →
          (onCompletions surroundings (earlier ++ [completion]) controller
            world).1.MeetsTarget)) ∧
    (∀ world, (controller.tick surroundings world).1.target = controller.target →
      ((controller.tick surroundings world).1.MeetsTarget ↔
        (controller.expirePending (surroundings.clock world)).MeetsTarget ∨
          controller.Admits (surroundings.clock world))) ∧
    (∀ world, controller.target < (controller.tick surroundings world).1.target →
      ((controller.tick surroundings world).1.MeetsTarget ↔
        (controller.tick surroundings world).1.target ≤
            (controller.assessed surroundings world).2.1.committed ∨
          (controller.assessed surroundings world).2.1.Admits
            (surroundings.clock (controller.assessed surroundings world).2.2))) ∧
    (∀ earlier completion world replica,
      replica ∈ (onCompletions surroundings earlier controller world).1.running →
        replica.isActive = true → completion.replica = replica.id →
        ((onCompletions surroundings (earlier ++ [completion]) controller world).1.MeetsTarget ↔
          (onCompletions surroundings earlier controller world).1.target <
              (onCompletions surroundings earlier controller world).1.committed ∨
            completion.replica = allocatorKey ∨
            (onCompletions surroundings earlier controller world).1.Admits
              (surroundings.clock (onCompletions surroundings earlier controller world).2))) := by
  refine ⟨fun enough allocations _ => allocated_target_le_committed allocations _ enough, ?_,
    tick_meetsTarget_iff_of_same answered controller,
    tick_meetsTarget_iff_of_raised answered controller, run.completed_meetsTarget_iff answered⟩
  intro unshared
  have closed := run.allocatorClosed answered unshared
  refine ⟨?_, ?_, ?_⟩
  · intro world succeeded
    exact ((startUp_started surroundings controller world).meetsTarget answered closed).2
      succeeded
  · intro world
    refine (tick_answered answered controller world closed ?_).2
    exact fun known => unshared (run.known_granted allocatorKey known)
  · intro earlier completion world replica running active completed
    have stillClosed := closed.completed answered earlier world
    exact (run.completed_meetsTarget_iff answered earlier completion world replica running active
      completed).mpr (Or.inr (Or.inr (stillClosed.admits _)))

/-- One replica is adopted, and the round after it requests nothing that is not missing. -/
theorem committed_after_first_round :
    allocatorKey ∉ grants [.start (.ok ⟨[bareAllocation "first"], {}⟩)] ∧
      (((ofSettings plainSettings).startUp (standstill [bareAllocation "first"])
        ()).2.1.tick (standstill [bareAllocation "first"]) ()).1.MeetsTarget := by
  have initial := @Run.initial Unit (standstill [bareAllocation "first"]) plainSettings
  have run := initial.step (.start ())
  have unshared : allocatorKey ∉ grants [.start (.ok ⟨[bareAllocation "first"], {}⟩)] := by
    decide
  exact ⟨unshared, ((failover_is_complete (fun _ _ => rfl) run).2.1 unshared).2.1 ()⟩

/-- Settings with a target of two, and breakers that the first failure opens. -/
def touchySettings : ControllerSettings :=
  { plainSettings with
    policy := { minimum := 2, cooldown := .ofSeconds 0 }
    breaker := { failureThreshold := 1 } }

/-- The registration hands over a container with the name of the allocator's breaker. -/
def sharedName : Surroundings Unit :=
  standstill [bareAllocation allocatorKey, bareAllocation "other"]

/-- The controller after its start and a round in which no replica answered its probe. -/
def afterSilence : Controller :=
  (((ofSettings touchySettings).startUp sharedName ()).2.1.tick sharedName ()).1

/-- A replica with the name of the allocator's breaker opens it with its own failed probe. Then a
lost replica is not replaced, although the allocator takes every request. -/
theorem shared_breaker_stops_failover :
    (∀ request world, (sharedName.request request world).1 = .ok ()) ∧
      (∃ labels, Run sharedName labels afterSilence) ∧
      (∃ replica ∈ afterSilence.running, replica.isActive = true ∧ replica.id = "other") ∧
      (onCompletions sharedName [⟨"other", .failed, none, ""⟩] afterSilence ()).1.committed <
        (onCompletions sharedName [⟨"other", .failed, none, ""⟩] afterSilence ()).1.target := by
  have initial := @Run.initial Unit sharedName touchySettings
  have run := (initial.step (.start ())).step (.tick ())
  refine ⟨fun _ _ => rfl, ⟨_, run⟩, ?_, ?_⟩
  · decide +kernel
  · decide +kernel

end Fleet.Controller
