import Fleet.Proofs.Controller.Failover
import Fleet.Proofs.Controller.Guards

/-!
# Requests after denials

Requests pass the allocator's breaker, and a denial counts as a failure of the allocator like any
other. So a round in which containers are missing requests some of them, unless the breaker is open
and its reset timeout has not passed. What reaches the allocator is counted here by surroundings
that do nothing else beside.
-/

namespace Fleet

namespace Surroundings

variable {World : Type}

/-- An operation that leaves a count alone. -/
def beside {Value : Type} (operation : World → Value × World) (state : World × Nat) :
    Value × World × Nat :=
  let (value, world) := operation state.1
  (value, world, state.2)

/-- The surroundings with a count of the requests that reach the allocator. -/
def counted (surroundings : Surroundings World) : Surroundings (World × Nat) where
  clock state := surroundings.clock state.1
  epoch state := surroundings.epoch state.1
  register := beside surroundings.register
  unregister := beside surroundings.unregister
  request request state :=
    let (result, world) := surroundings.request request state.1
    (result, world, state.2 + 1)
  release replica := beside (surroundings.release replica)
  launch replica context := beside (surroundings.launch replica context)
  stop replica := beside (surroundings.stop replica)
  ready replica := beside (surroundings.ready replica)
  metrics replica := beside (surroundings.metrics replica)
  receive := beside surroundings.receive
  isCancelled state := surroundings.isCancelled state.1
  isEnding state := surroundings.isEnding state.1
  rest handle limit state := (surroundings.rest handle limit state.1, state.2)
  await handle limit state := (surroundings.await handle limit state.1, state.2)

end Surroundings

namespace Controller

variable {World : Type} {surroundings : Surroundings World} {controller : Controller}
  {state : World × Nat}

/-- The allocator's breaker is open, and its reset timeout has not passed. -/
def IsLockedOut (controller : Controller) (now : Instant) : Prop :=
  (controller.background.breakers.breaker allocatorKey).LocksOut now

instance (controller : Controller) (now : Instant) : Decidable (controller.IsLockedOut now) :=
  inferInstanceAs (Decidable (Breaker.LocksOut _ now))

theorem admits_iff_of_each (each : controller.background.breakers.Each Breaker.IsSettled)
    (now : Instant) : controller.Admits now ↔ ¬controller.IsLockedOut now :=
  (each allocatorKey allocatorKey_ne_launcherKey).allow_iff now

/-! ## What is counted -/

/-- An admitted request reaches the allocator, whatever it answers. -/
theorem lt_callRequest_of_admits (admitted : controller.Admits (surroundings.clock state.1))
    (request : AllocationRequest) :
    state.2 < (controller.callRequest surroundings.counted request state).2.2.2 := by
  have performed (plan : LaunchPlan) (work : Work) (reached : World × Nat) (_ : True)
      (more : state.2 < reached.2) :
      state.2 < (work.perform surroundings.counted plan reached).2.2 := by
    cases work <;> exact more
  have called : state.2 < (controller.callBeside surroundings.counted
      (surroundings.counted.request request) (controller.background, state)).2.2.2 := by
    apply RetryPolicy.call_keeps_of_first
      fun reached : Background × World × Nat => state.2 < reached.2.2
    · intro reached more
      exact more.trans (Nat.lt_succ_self _)
    · intro duration reached more
      exact (Background.pause_confined performed (fun _ _ _ more => more) _ _ _
        ⟨fun _ _ => trivial, more⟩).holds
    · exact Nat.lt_succ_self _
  rw [@callRequest_of_allowed _ surroundings.counted controller state request admitted]
  exact called

theorem callRequest_of_not_admits (refused : ¬controller.Admits (surroundings.clock state.1))
    (request : AllocationRequest) :
    (controller.callRequest surroundings.counted request state).2.2 = state := by
  rw [@callRequest_of_refused _ surroundings.counted controller state request refused]

theorem issueRequests_of_not_admits (count : Nat)
    (refused : ¬controller.Admits (surroundings.clock state.1)) :
    (issueRequests surroundings.counted count controller state).2 = state := by
  cases count with
  | zero => rfl
  | succ count =>
      simp only [issueRequests]
      rw [@callRequest_of_refused _ surroundings.counted controller state _ refused]

theorem le_issueRequests (count : Nat) (controller : Controller) (state : World × Nat) :
    state.2 ≤ (issueRequests surroundings.counted count controller state).2.2 := by
  induction count generalizing controller state with
  | zero => exact le_rfl
  | succ count ih =>
      have first : state.2 ≤ (controller.callRequest surroundings.counted
          controller.nextAllocationRequest state).2.2.2 := by
        by_cases admitted : controller.Admits (surroundings.clock state.1)
        · exact (lt_callRequest_of_admits admitted _).le
        · rw [callRequest_of_not_admits admitted]
      simp only [issueRequests]
      split
      · exact first.trans (ih _ _)
      · exact first
      · exact first

/-- Something is requested exactly where something is missing, and the breaker admits it. -/
theorem lt_requestMissing_iff (controller : Controller) (state : World × Nat) :
    state.2 < (controller.requestMissing surroundings.counted state).2.2 ↔
      ¬controller.MeetsTarget ∧ controller.Admits (surroundings.clock state.1) := by
  simp only [requestMissing, MeetsTarget]
  by_cases nothing : controller.target - controller.committed = 0
  · rw [if_pos nothing]
    have enough : controller.target ≤ controller.committed := by omega
    exact iff_of_false (lt_irrefl _) fun missing => missing.1 enough
  · rw [if_neg nothing]
    rcases Nat.exists_eq_succ_of_ne_zero nothing with ⟨others, more⟩
    have missing : ¬controller.target ≤ controller.committed := by omega
    rw [more, ← admits_ensure_iff]
    generalize ({ controller with background := _ } : Controller) = ensured
    by_cases admitted : ensured.Admits (surroundings.clock state.1)
    · refine iff_of_true ?_ ⟨missing, admitted⟩
      have first := lt_callRequest_of_admits admitted ensured.nextAllocationRequest
      simp only [issueRequests]
      split
      · exact first.trans_le (le_issueRequests ..)
      · exact first
      · exact first
    · rw [issueRequests_of_not_admits _ admitted]
      exact iff_of_false (lt_irrefl _) fun both => admitted both.2

theorem le_requestMissing (controller : Controller) (state : World × Nat) :
    state.2 ≤ (controller.requestMissing surroundings.counted state).2.2 := by
  simp only [requestMissing]
  split
  · exact le_rfl
  · exact le_issueRequests ..

theorem probeAll_counted (replicas : List Replica) (breakers : BreakerRegistry)
    (state : World × Nat) :
    (probeAll surroundings.counted replicas breakers state).2.2.2 = state.2 := by
  induction replicas generalizing breakers state with
  | nil => rfl
  | cons replica rest ih =>
      simp only [probeAll]
      rw [ih]
      simp only [probe]
      apply Breaker.call_keeps _ _ _ fun reached : World × Nat => reached.2 = state.2
      · intro reached same
        exact same
      · split <;> rfl

/-! ## Rounds -/

theorem assessed_counted (controller : Controller) (state : World × Nat) :
    (controller.assessed surroundings.counted state).2.2.2 =
      (controller.replenish surroundings.counted (surroundings.clock state.1) state).2.2 := by
  simp only [assessed, assess, sampleReplicas_eq, probeAll_counted]
  rfl

theorem lt_actOnTarget_iff (controller : Controller) (target : Nat) (state : World × Nat) :
    state.2 < (controller.actOnTarget surroundings.counted target state).2.2 ↔
      controller.target < target ∧ ¬target ≤ controller.committed ∧
        controller.Admits (surroundings.clock state.1) := by
  simp only [actOnTarget]
  by_cases higher : controller.target < target
  · rw [if_pos higher, lt_requestMissing_iff]
    exact (and_iff_right higher).symm
  · rw [if_neg higher]
    refine iff_of_false ?_ fun raised => higher raised.1
    split
    · exact lt_irrefl _
    · split <;> exact lt_irrefl _

theorem lt_replenish_iff (controller : Controller) (now : Instant) (state : World × Nat) :
    state.2 < (controller.replenish surroundings.counted now state).2.2 ↔
      ¬(controller.expirePending now).MeetsTarget ∧
        controller.Admits (surroundings.clock state.1) := by
  rcases (controller.expirePending now).retryReleases_frame with ⟨background, retried, evolved⟩
  rw [replenish, lt_requestMissing_iff, retried]
  exact and_congr_right fun _ => admits_iff_of_evolves evolved _

theorem replenish_committed_of_not_admits (now : Instant)
    (refused : ¬controller.Admits (surroundings.clock state.1)) :
    (controller.replenish surroundings.counted now state).1.committed =
      (controller.expirePending now).committed := by
  rcases (controller.expirePending now).retryReleases_frame with ⟨background, retried, evolved⟩
  rw [replenish, requestMissing_refused, retried]
  · rfl
  · rw [retried]
    exact mt (admits_iff_of_evolves evolved _).mp refused

theorem le_actOnTarget (controller : Controller) (target : Nat) (state : World × Nat) :
    state.2 ≤ (controller.actOnTarget surroundings.counted target state).2.2 := by
  simp only [actOnTarget]
  split
  · exact le_requestMissing ..
  · split
    · exact le_rfl
    · split <;> exact le_rfl

theorem lt_tick_of_admits (state : World × Nat)
    (missing : ¬(controller.expirePending (surroundings.clock state.1)).MeetsTarget)
    (admitted : controller.Admits (surroundings.clock state.1)) :
    state.2 < (controller.tick surroundings.counted state).2.2 := by
  have first := (lt_replenish_iff controller (surroundings.clock state.1) state).mpr
    ⟨missing, admitted⟩
  rw [tick_world]
  rw [← assessed_counted] at first
  exact first.trans_le (le_actOnTarget ..)

/-- A round whose first request is refused requests something after its decision at most. -/
theorem lt_tick_iff_of_not_admits (state : World × Nat)
    (missing : ¬(controller.expirePending (surroundings.clock state.1)).MeetsTarget)
    (refused : ¬controller.Admits (surroundings.clock state.1)) :
    state.2 < (controller.tick surroundings.counted state).2.2 ↔
      controller.target < (controller.tick surroundings.counted state).1.target ∧
        (controller.assessed surroundings.counted state).2.1.Admits
          (surroundings.clock (controller.assessed surroundings.counted state).2.2.1) := by
  have replenished := le_antisymm (not_lt.mp fun more => refused
    ((lt_replenish_iff controller (surroundings.clock state.1) state).mp more).2)
    (le_requestMissing (controller.expirePending (surroundings.clock state.1)).retryReleases state)
  have counted : (controller.assessed surroundings.counted state).2.2.2 = state.2 :=
    (assessed_counted controller state).trans replenished
  have short : (controller.assessed surroundings.counted state).2.1.committed <
      (controller.assessed surroundings.counted state).2.1.target := by
    rw [(assessed_sampled ..).committed_eq, assessed_target,
      replenish_committed_of_not_admits _ refused]
    exact not_le.mp missing
  rw [tick_world, tick_target, ← assessed_target surroundings.counted controller state]
  nth_rewrite 1 [← counted]
  rw [lt_actOnTarget_iff]
  exact and_congr_right fun raised => and_iff_right (by omega)

/-! ## Denials -/

/-- What is missing is requested in the next round, unless the allocator is locked out. In every
run, a round in which something is missing makes a request exactly where the allocator is not locked
out, or the target is raised and it is not locked out after that. It is locked out by as many
failures in a row as open its breaker, denials among them, and for the reset timeout at most. -/
theorem missing_requested_unless_locked_out {labels : List Label}
    (run : Run surroundings.counted labels controller) (world : World)
    (missing : ¬(controller.expirePending (surroundings.clock world)).MeetsTarget) :
    let assessed := controller.assessed surroundings.counted (world, 0)
    let ticked := controller.tick surroundings.counted (world, 0)
    (0 < ticked.2.2 ↔
      ¬controller.IsLockedOut (surroundings.clock world) ∨
        controller.target < ticked.1.target ∧
          ¬assessed.2.1.IsLockedOut (surroundings.clock assessed.2.2.1)) ∧
    ∀ now, controller.IsLockedOut now →
      let breaker := controller.background.breakers.breaker allocatorKey
      breaker.threshold ≤ breaker.failures ∧ ∃ opened, breaker.openedAt = some opened ∧
        now.since opened < breaker.settings.resetTimeout := by
  have each := run.each Breaker.Called.isSettled Breaker.isSettled_fresh
  have assessedEach := assessed_each Breaker.Called.isSettled surroundings.counted controller
    (world, 0) each
  refine ⟨?_, fun now => (each allocatorKey allocatorKey_ne_launcherKey).of_locksOut⟩
  rw [← admits_iff_of_each each, ← admits_iff_of_each assessedEach]
  by_cases admitted : controller.Admits (surroundings.clock world)
  · exact iff_of_true (lt_tick_of_admits (world, 0) missing admitted) (Or.inl admitted)
  · rw [or_iff_right admitted]
    exact lt_tick_iff_of_not_admits (world, 0) missing admitted

/-- A cluster without room: time passes, and every request is denied. -/
def fullCluster : Surroundings Instant where
  clock now := now
  epoch _ := 0
  register now := (.ok ⟨[], {}⟩, now)
  unregister now := (.ok (), now)
  request _ now := (.error (.allocationDenied "cluster full"), now)
  release _ now := (.ok (), now)
  launch _ _ now := (.ok (), now)
  stop _ now := (.ok (), now)
  ready _ now := (some false, now)
  metrics _ now := (none, now)
  receive now := (none, now)
  isCancelled _ := false
  isEnding _ := false
  rest _ limit _ := limit
  await _ limit _ := limit

/-- The time some seconds after the start. -/
def seconds (passed : Nat) : Instant := ⟨passed * Duration.second⟩

/-- The controller after its start and four rounds, each of which had its request denied. -/
def afterDenials : Controller :=
  [15, 30, 45, 60].foldl
    (fun controller passed => (controller.tick fullCluster.counted (seconds passed, 0)).1)
    ((ofSettings plainSettings).startUp fullCluster.counted (seconds 0, 0)).2.1

theorem run_afterDenials : ∃ labels, Run fullCluster.counted labels afterDenials := by
  have started := (@Run.initial _ fullCluster.counted plainSettings).step (.start (seconds 0, 0))
  have second := (started.step (.tick (seconds 15, 0))).step (.tick (seconds 30, 0))
  exact ⟨_, (second.step (.tick (seconds 45, 0))).step (.tick (seconds 60, 0))⟩

/-- When the reset timeout has passed, the missing replica is requested again. -/
theorem requested_once_rested :
    ¬(afterDenials.expirePending (seconds 90)).MeetsTarget ∧
      ¬afterDenials.IsLockedOut (seconds 90) ∧
      0 < (afterDenials.tick fullCluster.counted (seconds 90, 0)).2.2 := by
  have missing : ¬(afterDenials.expirePending (seconds 90)).MeetsTarget := by
    rw [MeetsTarget]
    decide +kernel
  have rested : ¬afterDenials.IsLockedOut (seconds 90) := by
    decide +kernel
  rcases run_afterDenials with ⟨labels, run⟩
  have requested := (missing_requested_unless_locked_out run (seconds 90) missing).1
  exact ⟨missing, rested, requested.mpr (Or.inl rested)⟩

/-- Five denials open the breaker, and the next round requests nothing. -/
theorem nothing_requested_after_denials :
    (∀ request now, (fullCluster.request request now).1 =
        .error (.allocationDenied "cluster full")) ∧
      (∃ labels, Run fullCluster.counted labels afterDenials) ∧
      ¬(afterDenials.expirePending (seconds 75)).MeetsTarget ∧
      (afterDenials.tick fullCluster.counted (seconds 75, 0)).2.2 = 0 := by
  refine ⟨fun _ _ => rfl, run_afterDenials, ?_, ?_⟩
  · rw [MeetsTarget]
    decide +kernel
  · decide +kernel

end Controller

end Fleet
