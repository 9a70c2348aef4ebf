import Fleet.Proofs.Controller.Identity

/-!
# How much is committed

Running replicas that were not asked to stop, launches and requests make up what is committed. No
round, event or result raises it above the targets before and after: requests are issued for what
is missing only, and a grant either takes the place of a request or is accepted below the target.
The one exception is a replica that could not be stopped, which counts again.
-/

namespace Fleet.Controller

variable {World : Type} {surroundings : Surroundings World} {before after : Controller}

/-! ## Grants -/

theorem Granted.target_eq {allocation : Allocation}
    (granted : Granted before allocation after) : after.target = before.target := by
  cases granted <;> rfl

theorem Granted.committed_le {allocation : Allocation}
    (granted : Granted before allocation after) :
    after.committed ≤ max before.committed before.target := by
  cases granted with
  | ignored => exact le_max_left _ _
  | released =>
      rw [start_committed]
      simp only [committed, List.length_drop, activeCount]
      omega
  | accepted unknown unmet =>
      have absent := not_launching_of_unknown unknown
      have longer := SortedMap.length_insert absent allocation.toReplica
      rw [start_committed]
      simp only [committed, List.length_drop, activeCount, longer] at unmet ⊢
      omega

/-- A grant answers a request at most, and is only given back where the target is met without it. -/
theorem Granted.target_le_committed {allocation : Allocation}
    (granted : Granted before allocation after) (enough : before.target ≤ before.committed) :
    after.target ≤ after.committed := by
  cases granted with
  | ignored => exact enough
  | released _ met =>
      rw [start_committed]
      exact met.trans (Nat.le_add_right _ _)
  | accepted unknown unmet =>
      have longer := SortedMap.length_insert (not_launching_of_unknown unknown)
        allocation.toReplica
      rw [start_committed]
      simp only [start, committed, List.length_drop, activeCount, longer] at enough unmet ⊢
      omega

theorem allocated_target_le_committed (allocations : List Allocation) (controller : Controller)
    (enough : controller.target ≤ controller.committed) :
    (allocations.foldl onAllocated controller).target ≤
      (allocations.foldl onAllocated controller).committed :=
  allocated_keeps (fun reached => reached.target ≤ reached.committed) allocations
    (fun _ _ _ _ granted held => granted.target_le_committed held) enough

theorem allocated_committed_le (allocations : List Allocation) (controller : Controller) :
    (allocations.foldl onAllocated controller).target = controller.target ∧
      (allocations.foldl onAllocated controller).committed ≤
        max controller.committed controller.target := by
  apply allocated_keeps fun reached => reached.target = controller.target ∧
    reached.committed ≤ max controller.committed controller.target
  · rintro allocation _ reached after granted ⟨target, bound⟩
    have step := granted.committed_le
    rw [granted.target_eq]
    exact ⟨target, by omega⟩
  · exact ⟨rfl, le_max_left _ _⟩

/-! ## Completions -/

theorem dropReplica_committed {controller : Controller} {id : String} {replica : Replica}
    (found : controller.running.find? (·.id = id) = some replica) :
    (controller.dropReplica id).committed + (if replica.isActive then 1 else 0) =
      controller.committed := by
  have counted : (controller.dropReplica id).committed =
      (controller.running.eraseP (·.id = id)).countP Replica.isActive +
        controller.launching.entries.length + controller.pending.length := by
    rw [committed, activeCount_eq_countP]
    rfl
  have active := countP_eraseP found
  rw [counted, committed, activeCount_eq_countP]
  omega

theorem Ended.target_eq {completion : Completion} {world : World}
    (ended : Ended surroundings before completion world after) : after.target = before.target := by
  cases ended with
  | buried => rfl
  | ignored => rfl
  | dropped => rfl
  | replaced => exact (requestMissing_requested ..).target_eq

theorem Ended.committed_le {completion : Completion} {world : World}
    (ended : Ended surroundings before completion world after) :
    after.committed ≤ max before.committed before.target := by
  cases ended with
  | buried => exact le_max_left _ _
  | ignored => exact le_max_left _ _
  | dropped _ found =>
      have dropped := dropReplica_committed found
      omega
  | replaced _ found =>
      have dropped := dropReplica_committed found
      have bound := committed_requestMissing_le surroundings
        ((before.dropReplica completion.replica).alert
          (.containerFailure completion.replica completion.reason (surroundings.epoch world)))
        world
      have sameCommitted (alert : Alert) : ((before.dropReplica completion.replica).alert
          alert).committed = (before.dropReplica completion.replica).committed := rfl
      have sameTarget (alert : Alert) : ((before.dropReplica completion.replica).alert
          alert).target = before.target := rfl
      rw [sameCommitted, sameTarget] at bound
      omega

theorem onCompletions_committed_le (completions : List Completion) (controller : Controller)
    (world : World) :
    (onCompletions surroundings completions controller world).1.target = controller.target ∧
      (onCompletions surroundings completions controller world).1.committed ≤
        max controller.committed controller.target := by
  apply completions_keep surroundings fun reached => reached.target = controller.target ∧
    reached.committed ≤ max controller.committed controller.target
  · rintro completion _ reached world after ended ⟨target, bound⟩
    have step := ended.committed_le
    rw [ended.target_eq]
    exact ⟨target, by omega⟩
  · exact ⟨rfl, le_max_left _ _⟩

/-! ## Results of background work -/

/-- A launch that comes to a result takes its container out of the launching ones, and may add it
to the running ones. -/
theorem Landed.committed_le {replica : Replica} {now : Nat} {result : Except ClusterError Unit}
    (landed : Landed before replica now result after)
    (launching : replica.id ∈ before.launching.keys) : after.committed ≤ before.committed := by
  have fewer := SortedMap.length_erase launching
  cases landed with
  | discarded =>
      simp only [committed, activeCount]
      omega
  | adopted =>
      have atMostOne := List.length_filter_le Replica.isActive
        [{ replica with phase := .launching, launchedAt := now }]
      rw [List.length_singleton] at atMostOne
      simp only [publish, adopt, committed, activeCount, List.filter_append, List.length_append]
      omega
  | failed =>
      simp only [publish, start, alert, committed, activeCount]
      omega

/-! ## Steps -/

/-- Whether a step takes in that a replica could not be stopped. -/
def Label.isFailedStop : Label → Bool
  | outcome (.stop _) (.error _) => true
  | _ => false

/-- Whether a step starts the controller. -/
def Label.isStart : Label → Bool
  | start _ => true
  | _ => false

theorem Step.committed_le {label : Label} (step : Step surroundings label before after)
    (identified : Identified before) (started : label.isStart = false)
    (stopping : label.isFailedStop = false) :
    after.committed ≤ max before.committed (max before.target after.target) := by
  cases step with
  | start world => cases started
  | tick world => exact (tick_ticked ..).committed_le
  | event event world =>
      have bound (after : Controller)
          (reached : after.committed ≤ max before.committed before.target) :
          after.publish.committed ≤ max before.committed (max before.target after.publish.target) :=
        reached.trans (max_le_max_left _ (le_max_left _ _))
      apply bound
      cases event with
      | allocated allocations => exact (allocated_committed_le allocations before).2
      | completed completions => exact (onCompletions_committed_le completions before world).2
      | launchFailed replica reason => exact (onCompleted_ended ..).committed_le
      | trouble | resourcesUpdated | shutdownRequested => exact le_max_left _ _
  | @outcome _ earlier later work result ready world =>
      refine le_max_of_le_left ?_
      cases work with
      | launch replica =>
          exact (onLaunched_landed (before.withFinished (earlier ++ later)) replica result
            (surroundings.epoch world)).committed_le (identified.take_launch ready).1
      | stop replica =>
          cases result with
          | ok => exact le_rfl
          | error failure => cases stopping
      | release released =>
          simp only [onFinished, onReleased]
          split <;> exact le_rfl
  | progress flying world => exact le_max_left _ _

/-! ## Launches -/

theorem Started.outstanding_eq {registration : Except ClusterError Registration}
    {answer : Except ClusterError Unit}
    (started : Started surroundings before registration answer after) :
    after.background.outstanding = before.background.outstanding := by
  cases started with
  | refused evolved => exact evolved.outstanding.trans (zero_add _)
  | registered evolved registration now target world =>
      refine (requestMissing_requested ..).outstanding.trans ?_
      rcases adoptPrevious_frame registration.previous now _ with ⟨running, aggregator, adopted⟩
      rw [adopted]
      exact evolved.outstanding.trans (zero_add _)

theorem Ended.outstanding_eq {completion : Completion} {world : World}
    (ended : Ended surroundings before completion world after) :
    after.background.outstanding = before.background.outstanding := by
  cases ended with
  | buried => rfl
  | ignored => rfl
  | dropped => rfl
  | replaced => exact (requestMissing_requested ..).outstanding

theorem onCompletions_outstanding (completions : List Completion) (controller : Controller)
    (world : World) :
    (onCompletions surroundings completions controller world).1.background.outstanding =
      controller.background.outstanding :=
  completions_keep surroundings
    (fun reached => reached.background.outstanding = controller.background.outstanding) completions
    (fun _ _ _ _ _ ended held => ended.outstanding_eq.trans held) rfl world

theorem Finished.count_launch {work : Work} {result : Except ClusterError Unit} {now : Nat}
    (finished : Finished before now work result after) (replica : Replica) :
    after.background.outstanding.count (.launch replica) =
      before.background.outstanding.count (.launch replica) := by
  cases finished with
  | launched landed =>
      cases landed with
      | discarded => rfl
      | adopted => rfl
      | failed =>
          rw [publish, start, (Background.start_evolves _ _).outstanding, Multiset.singleton_add]
          exact Multiset.count_cons_of_ne (by simp) _
  | stopped => rfl
  | released => rfl

/-- Whether a grant is accepted: its container is new, and the running and the launching replicas
are fewer than the target. -/
def Accepts (controller : Controller) (allocation : Allocation) : Prop :=
  controller.isKnown allocation.replica = false ∧
    controller.activeCount + controller.launching.entries.length < controller.target

theorem Granted.accepts {replica : Replica} {allocation : Allocation}
    (granted : Granted before allocation after)
    (more : before.background.outstanding.count (.launch replica) <
      after.background.outstanding.count (.launch replica)) :
    replica = allocation.toReplica ∧ Accepts before allocation := by
  cases granted with
  | ignored => exact absurd more (lt_irrefl _)
  | released =>
      rw [start, (Background.start_evolves _ _).outstanding, Multiset.singleton_add,
        Multiset.count_cons_of_ne (by simp)] at more
      exact absurd more (lt_irrefl _)
  | accepted unknown unmet =>
      refine ⟨?_, unknown, unmet⟩
      by_contra different
      rw [start, (Background.start_evolves _ _).outstanding, Multiset.singleton_add,
        Multiset.count_cons_of_ne (by simpa using different)] at more
      exact absurd more (lt_irrefl _)

theorem launch_of_allocated {replica : Replica} (allocations : List Allocation)
    (controller : Controller)
    (more : controller.background.outstanding.count (.launch replica) <
      (allocations.foldl onAllocated controller).background.outstanding.count (.launch replica)) :
    ∃ earlier allocation later, allocations = earlier ++ allocation :: later ∧
      replica = allocation.toReplica ∧
      Accepts (earlier.foldl onAllocated controller) allocation := by
  induction allocations generalizing controller with
  | nil => exact absurd more (lt_irrefl _)
  | cons allocation rest ih =>
      by_cases later : (controller.onAllocated allocation).background.outstanding.count
          (.launch replica) <
        ((allocation :: rest).foldl onAllocated controller).background.outstanding.count
          (.launch replica)
      · rcases ih (controller.onAllocated allocation) later with
          ⟨earlier, granted, after, rfl, same, accepted⟩
        exact ⟨allocation :: earlier, granted, after, rfl, same, accepted⟩
      · have here := more.trans_le (not_lt.mp later)
        have accepted := (onAllocated_granted controller allocation).accepts here
        exact ⟨[], allocation, rest, rfl, accepted⟩

/-- No step starts a launch but for a grant that it accepts. -/
theorem Step.launch_accepted {label : Label} {replica : Replica}
    (step : Step surroundings label before after)
    (more : before.background.outstanding.count (.launch replica) <
      after.background.outstanding.count (.launch replica)) :
    ∃ earlier allocation later, label = .event (.allocated (earlier ++ allocation :: later)) ∧
      replica = allocation.toReplica ∧ Accepts (earlier.foldl onAllocated before) allocation := by
  cases step with
  | start world =>
      rw [(startUp_started surroundings before world).outstanding_eq] at more
      exact absurd more (lt_irrefl _)
  | tick world =>
      rcases (tick_ticked surroundings before world).work with ⟨victim, outstanding, -⟩
      rw [outstanding, Multiset.count_add, Multiset.count_add] at more
      have stops : (victim.toList.map Work.stop).count (.launch replica) = 0 := by
        simp [List.count_eq_zero]
      have releases : (before.unreleased.keys.map Work.release).count (.launch replica) = 0 := by
        simp [List.count_eq_zero]
      simp only [Multiset.coe_count] at more
      omega
  | event event world =>
      cases event with
      | allocated allocations =>
          rcases launch_of_allocated allocations before more with
            ⟨earlier, allocation, later, rfl, accepted⟩
          exact ⟨earlier, allocation, later, rfl, accepted⟩
      | completed completions =>
          have same : (before.handleEvent surroundings (.completed completions)
              world).1.background.outstanding = before.background.outstanding :=
            onCompletions_outstanding ..
          rw [same] at more
          exact absurd more (lt_irrefl _)
      | launchFailed failed reason =>
          have ended := onCompleted_ended surroundings before (failedLaunch failed reason) world
          have added : (before.handleEvent surroundings (.launchFailed failed reason)
              world).1.background.outstanding =
                {.release failed} + before.background.outstanding := by
            rw [← ended.outstanding_eq]
            exact (Background.start_evolves _ _).outstanding
          rw [added, Multiset.singleton_add, Multiset.count_cons_of_ne (by simp)] at more
          exact absurd more (lt_irrefl _)
      | trouble | resourcesUpdated | shutdownRequested => exact absurd more (lt_irrefl _)
  | @outcome _ earlier later work result ready world =>
      have finished := onFinished_finished (before.withFinished (earlier ++ later)) work result
        (surroundings.epoch world)
      rw [finished.count_launch, outstanding_withFinished ready] at more
      have := Multiset.count_le_count_cons (Work.launch replica) work
        (before.withFinished (earlier ++ later)).background.outstanding
      omega
  | progress flying world =>
      have same := (progress_evolves surroundings flying world).outstanding
      rw [zero_add] at same
      simp only [same] at more
      exact absurd more (lt_irrefl _)

theorem Granted.outstanding_le {allocation : Allocation}
    (granted : Granted before allocation after) :
    before.background.outstanding ≤ after.background.outstanding := by
  have started (controller : Controller) (work : Work) :
      controller.background.outstanding ≤ (controller.start work).background.outstanding := by
    rw [start, (Background.start_evolves _ _).outstanding]
    exact le_add_of_nonneg_left (Multiset.zero_le _)
  cases granted with
  | ignored => exact le_rfl
  | released => exact started _ _
  | accepted => exact started _ _

theorem outstanding_le_allocated (allocations : List Allocation) (controller : Controller) :
    controller.background.outstanding ≤
      (allocations.foldl onAllocated controller).background.outstanding :=
  allocated_keeps
    (fun reached => controller.background.outstanding ≤ reached.background.outstanding)
    allocations (fun _ _ _ _ granted held => held.trans granted.outstanding_le) le_rfl

/-- A new grant that is not accepted is given back. -/
theorem Granted.release_le {allocation : Allocation} (granted : Granted before allocation after)
    (unknown : before.isKnown allocation.replica = false)
    (refused : ¬Accepts before allocation) :
    .release allocation.replica ::ₘ before.background.outstanding ≤
      after.background.outstanding := by
  cases granted with
  | ignored known =>
      rw [unknown] at known
      cases known
  | released =>
      rw [start, (Background.start_evolves _ _).outstanding, Multiset.singleton_add]
  | accepted _ unmet => exact absurd ⟨unknown, unmet⟩ refused

/-- The controller never allocates more than it may, whatever the cluster answers. No round, event
or result but that of a failed stop raises what is committed above the targets before and after it.
A launch is started only for a new grant that comes while the running and the launching replicas
are fewer than the target, and every other new grant is given back. -/
theorem never_over_allocates {labels : List Label} {label : Label}
    (run : Run surroundings labels before) (step : Step surroundings label before after) :
    (label.isStart = false → label.isFailedStop = false →
      after.committed ≤ max before.committed (max before.target after.target)) ∧
    (∀ replica, before.background.outstanding.count (.launch replica) <
        after.background.outstanding.count (.launch replica) →
      ∃ earlier allocation later, label = .event (.allocated (earlier ++ allocation :: later)) ∧
        replica = allocation.toReplica ∧
        Accepts (earlier.foldl onAllocated before) allocation) ∧
    (∀ earlier allocation later, label = .event (.allocated (earlier ++ allocation :: later)) →
      (earlier.foldl onAllocated before).isKnown allocation.replica = false →
      ¬Accepts (earlier.foldl onAllocated before) allocation →
      .release allocation.replica ::ₘ (earlier.foldl onAllocated before).background.outstanding ≤
        after.background.outstanding) := by
  refine ⟨step.committed_le run.identified, fun _ => step.launch_accepted, ?_⟩
  rintro earlier allocation later rfl unknown refused
  cases step with
  | event _ world =>
      have given := (onAllocated_granted _ allocation).release_le unknown refused
      simp only [handleEvent, onEvent, publish, List.foldl_append, List.foldl_cons]
      exact given.trans (outstanding_le_allocated later _)

/-- Of two containers that are granted for a target of one, one is committed and the other one is
given back. -/
theorem one_of_two_committed :
    ((ofSettings plainSettings).handleEvent (standstill [])
        (.allocated [bareAllocation "first", bareAllocation "second"]) ()).1.committed ≤ 1 ∧
      .release "second" ∈ ((ofSettings plainSettings).handleEvent (standstill [])
        (.allocated [bareAllocation "first", bareAllocation "second"])
        ()).1.background.outstanding := by
  have never := never_over_allocates (@Run.initial Unit (standstill []) plainSettings)
    (.event (.allocated [bareAllocation "first", bareAllocation "second"]) ())
  refine ⟨never.1 rfl rfl, ?_⟩
  have given := never.2.2 [bareAllocation "first"] (bareAllocation "second") [] rfl rfl
    (fun accepted => absurd accepted.2 (by decide))
  exact Multiset.mem_of_le given (Multiset.mem_cons_self _ _)

end Fleet.Controller
