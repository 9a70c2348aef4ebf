import Fleet.Controller.Rounds
import Fleet.Proofs.Controller.Background

/-!
# What requests change

Requests and the registration reach beyond the controller, and background work goes on during
their pauses. They change the pending requests and the breakers, and nothing that says where a
container is. There are never more new requests than were missing.
-/

namespace Fleet.Controller

variable {World : Type}

/-- The controllers have the same running set, replica by replica, the same launches and the same
completions to remember. -/
structure SameRoster (before after : Controller) : Prop where
  ids : after.running.map Replica.id = before.running.map Replica.id
  launching : after.launching = before.launching
  tombstones : after.tombstones = before.tombstones

namespace SameRoster

protected theorem refl (controller : Controller) : SameRoster controller controller :=
  ⟨rfl, rfl, rfl⟩

protected theorem trans {before middle after : Controller} (first : SameRoster before middle)
    (second : SameRoster middle after) : SameRoster before after :=
  ⟨second.ids.trans first.ids, second.launching.trans first.launching,
    second.tombstones.trans first.tombstones⟩

end SameRoster

/-- How at most `limit` requests change a controller. -/
structure Requested (limit : Nat) (before after : Controller) : Prop where
  frame : after =
    { before with
      background := after.background
      pending := after.pending
      nextRequest := after.nextRequest
      isBroken := after.isBroken }
  outstanding : after.background.outstanding = before.background.outstanding
  breaker : ∀ key, key ≠ launcherKey → key ≠ allocatorKey →
    after.background.breakers.breaker key = before.background.breakers.breaker key
  issued : ∃ issued, after.pending = before.pending ++ issued ∧ issued.length ≤ limit

namespace Requested

variable {limit more : Nat} {before middle after : Controller}

protected theorem refl (controller : Controller) : Requested limit controller controller :=
  ⟨rfl, rfl, fun _ _ _ => rfl, [], by simp, by simp⟩

protected theorem trans (first : Requested limit before middle)
    (second : Requested more middle after) : Requested (limit + more) before after := by
  rcases first.issued with ⟨early, earlyPending, earlyLength⟩
  rcases second.issued with ⟨late, latePending, lateLength⟩
  refine ⟨?_, ?_, ?_, early ++ late, ?_, ?_⟩
  · rw [second.frame, first.frame]
  · rw [second.outstanding, first.outstanding]
  · intro key notLauncher notAllocator
    rw [second.breaker key notLauncher notAllocator, first.breaker key notLauncher notAllocator]
  · rw [latePending, earlyPending, List.append_assoc]
  · rw [List.length_append]
    omega

end Requested

/-- A call of the cluster takes a span of time, in which no call appears or disappears. -/
theorem callBeside_evolves {Value : Type} (surroundings : Surroundings World)
    (controller : Controller) (operation : World → Except ClusterError Value × World)
    (state : Background × World) :
    Background.Evolves 0 state.1 (controller.callBeside surroundings operation state).2.1 := by
  apply RetryPolicy.call_keeps fun reached : Background × World =>
    Background.Evolves 0 state.1 reached.1
  · intro reached evolved
    exact evolved
  · intro duration reached evolved
    exact evolved.trans_zero (Background.pause_evolves ..)
  · exact .refl state.1

theorem callRegister_evolves (surroundings : Surroundings World) (controller : Controller)
    (world : World) :
    Background.Evolves 0 controller.background
      (controller.callRegister surroundings world).2.1 :=
  callBeside_evolves surroundings controller surroundings.register (controller.background, world)

/-- A request takes a span of time and changes the allocator's breaker. -/
theorem callRequest_evolves (surroundings : Surroundings World) (controller : Controller)
    (request : AllocationRequest) (world : World) :
    ∃ background breaker, Background.Evolves 0 controller.background background ∧
      (controller.callRequest surroundings request world).2.1 =
        { background with breakers := background.breakers.put allocatorKey breaker } := by
  have evolved := Breaker.call_keeps (controller.background.breakers.breaker allocatorKey)
    (fun state => surroundings.clock state.2)
    (controller.callBeside surroundings (surroundings.request request))
    (fun reached => Background.Evolves 0 controller.background reached.1)
    (fun reached evolved => evolved.trans_zero (callBeside_evolves ..))
    (controller.background, world) (.refl controller.background)
  exact ⟨_, _, evolved, rfl⟩

section Request

variable {surroundings : Surroundings World} {controller : Controller} {world : World}

/-- An admitted request is a call beside the background, and the breaker is told its result. -/
theorem callRequest_of_allowed (request : AllocationRequest)
    (allowed : ((controller.background.breakers.breaker allocatorKey).allow
      (surroundings.clock world)).1 = true) :
    let called := controller.callBeside surroundings (surroundings.request request)
      (controller.background, world)
    controller.callRequest surroundings request world =
      ((called.1.mapError CallError.inner).mapError ClusterError.ofCallError,
        { called.2.1 with
          breakers := called.2.1.breakers.put allocatorKey
            (((controller.background.breakers.breaker allocatorKey).allow
              (surroundings.clock world)).2.report (surroundings.clock called.2.2) called.1) },
        called.2.2) := by
  have reached := Breaker.call_eq_of_allowed
    (fun state : Background × World => surroundings.clock state.2)
    (controller.callBeside surroundings (surroundings.request request))
    (controller.background, world) allowed
  simp only [callRequest, reached]

/-- A refused request is no call at all. -/
theorem callRequest_of_refused (request : AllocationRequest)
    (refused : ¬((controller.background.breakers.breaker allocatorKey).allow
      (surroundings.clock world)).1 = true) :
    let asked := ((controller.background.breakers.breaker allocatorKey).allow
      (surroundings.clock world)).2
    controller.callRequest surroundings request world =
      (.error (.circuitOpen asked.name),
        { controller.background with
          breakers := controller.background.breakers.put allocatorKey asked }, world) := by
  have called := Breaker.call_of_refused
    (fun state : Background × World => surroundings.clock state.2)
    (controller.callBeside surroundings (surroundings.request request))
    (controller.background, world) refused
  simp only [callRequest, called]
  rfl

end Request

theorem issueRequests_requested (surroundings : Surroundings World) (count : Nat)
    (controller : Controller) (world : World) :
    Requested count controller (issueRequests surroundings count controller world).1 := by
  induction count generalizing controller world with
  | zero => exact .refl controller
  | succ count ih =>
      rcases callRequest_evolves surroundings controller controller.nextAllocationRequest world with
        ⟨background, breaker, evolved, called⟩
      have breakers : ∀ key, key ≠ launcherKey → key ≠ allocatorKey →
          (background.breakers.put allocatorKey breaker).breaker key =
            controller.background.breakers.breaker key := by
        intro key notLauncher notAllocator
        rw [BreakerRegistry.breaker_put_of_ne _ _ notAllocator, evolved.breaker key notLauncher]
      have outstanding := evolved.outstanding.trans (zero_add _)
      simp only [issueRequests]
      simp only [called]
      split
      · have first (issue : Nat × Instant) : Requested 1 controller
            { controller with
              background :=
                { background with breakers := background.breakers.put allocatorKey breaker }
              nextRequest := controller.nextRequest + 1
              pending := controller.pending ++ [issue] } :=
          ⟨rfl, outstanding, breakers, [issue], rfl, le_rfl⟩
        rw [add_comm count 1]
        exact (first _).trans (ih _ _)
      · exact ⟨rfl, outstanding, breakers, [], by simp, by simp⟩
      · exact ⟨rfl, outstanding, breakers, [], by simp, by simp⟩

/-- The controller requests no more than what is missing. -/
theorem requestMissing_requested (surroundings : Surroundings World) (controller : Controller)
    (world : World) :
    Requested (controller.target - controller.committed) controller
      (controller.requestMissing surroundings world).1 := by
  simp only [requestMissing]
  split
  · exact .refl controller
  · have ensured : Requested 0 controller
        { controller with
          background :=
            { controller.background with
              breakers := controller.background.breakers.ensure allocatorKey } } :=
      ⟨rfl, rfl, fun key _ _ => BreakerRegistry.breaker_ensure _ allocatorKey key, [],
        (List.append_nil _).symm, le_rfl⟩
    simpa only [zero_add] using
      ensured.trans (issueRequests_requested surroundings _ _ world)

namespace Requested

variable {limit : Nat} {before after : Controller}

theorem sameRoster (requested : Requested limit before after) : SameRoster before after := by
  rw [requested.frame]
  exact ⟨rfl, rfl, rfl⟩

theorem target_eq (requested : Requested limit before after) : after.target = before.target := by
  rw [requested.frame]

theorem unreleased_eq (requested : Requested limit before after) :
    after.unreleased = before.unreleased := by
  rw [requested.frame]

theorem activeCount_eq (requested : Requested limit before after) :
    after.activeCount = before.activeCount := by
  rw [requested.frame]
  rfl

theorem committed_le (requested : Requested limit before after) :
    after.committed ≤ before.committed + limit := by
  rcases requested.issued with ⟨issued, pending, bound⟩
  simp only [committed, requested.activeCount_eq, requested.sameRoster.launching, pending,
    List.length_append]
  omega

end Requested

/-- Replacing a lost replica moves no container. -/
theorem requestMissing_alert_sameRoster (surroundings : Surroundings World)
    (controller : Controller) (alert : Alert) (world : World) :
    SameRoster controller ((controller.alert alert).requestMissing surroundings world).1 := by
  have alerted : SameRoster controller (controller.alert alert) := ⟨rfl, rfl, rfl⟩
  exact alerted.trans (requestMissing_requested ..).sameRoster

/-- Requests do not overshoot the target. -/
theorem committed_requestMissing_le (surroundings : Surroundings World)
    (controller : Controller) (world : World) :
    (controller.requestMissing surroundings world).1.committed ≤
      max controller.committed controller.target := by
  have bound := (controller.requestMissing_requested surroundings world).committed_le
  omega

end Fleet.Controller
