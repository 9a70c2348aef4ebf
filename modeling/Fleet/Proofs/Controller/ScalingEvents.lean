import Fleet.Proofs.Controller.Commitment
import Fleet.Proofs.Controller.Losses
import Fleet.Proofs.Scaling

/-!
# The record of the target

Once the controller is started, its target changes in rounds only, by one, and each change is
recorded as one event that names the target before and after it. So whoever reads the recorded
events in their order can follow the target from where it was to where it is.
-/

namespace Fleet

namespace Alert

/-- An alert about a change of the target. -/
def isScaling (alert : Alert) : Bool := alert.kind = "scaling_event"

/-- The target after a change by one that an alert tells of, for a reader who knows the target
before. -/
def rescaled? (target : Nat) (alert : Alert) : Option Nat :=
  if alert.message = (scalingEvent "Scale up" target (target + 1) alert.time).message then
    some (target + 1)
  else if 0 < target ∧
      alert.message = (scalingEvent "Scale down" target (target - 1) alert.time).message then
    some (target - 1)
  else none

/-- The target that the changes lead to of which alerts tell, one after the other. -/
def replay (target : Nat) (alerts : List Alert) : Option Nat :=
  alerts.foldlM rescaled? target

theorem replay_append (target : Nat) (early late : List Alert) :
    replay target (early ++ late) = (replay target early).bind (replay · late) :=
  List.foldlM_append

theorem rescaled?_up (target time : Nat) :
    rescaled? target (scalingEvent "Scale up" target (target + 1) time) = some (target + 1) :=
  if_pos rfl

/-- The texts for changes in either direction begin with different words. -/
theorem message_down_ne_up (before lower higher time later : Nat) :
    (scalingEvent "Scale down" before lower time).message ≠
      (scalingEvent "Scale up" before higher later).message := by
  intro same
  have letters := congrArg (fun text : String => text.toList.take 7) same
  simp [scalingEvent] at letters

theorem rescaled?_down (target time : Nat) :
    rescaled? (target + 1) (scalingEvent "Scale down" (target + 1) target time) = some target := by
  rw [rescaled?, if_neg (message_down_ne_up _ _ _ _ _), if_pos ⟨Nat.succ_pos target, rfl⟩]
  rfl

end Alert

namespace Controller

variable {World : Type} {surroundings : Surroundings World} {before middle after : Controller}

/-! ## What is recorded of the target -/

/-- The controller keeps its settings and its policy. -/
structure SamePolicy (before after : Controller) : Prop where
  settings : after.settings = before.settings
  policy : after.decider.policy = before.decider.policy

/-- The controller keeps its target, too. -/
structure Steady (before after : Controller) : Prop extends SamePolicy before after where
  target : after.target = before.target

/-- The controller keeps its settings and its policy, it records some alerts, in their order, and
those about its target lead to the one that it has. -/
structure Tells (alerts : List Alert) (before after : Controller) : Prop
    extends SamePolicy before after where
  logged : Logs alerts before after
  replayed : Alert.replay before.target (alerts.filter Alert.isScaling) = some after.target

theorem SamePolicy.trans (first : SamePolicy before middle) (second : SamePolicy middle after) :
    SamePolicy before after :=
  ⟨second.settings.trans first.settings, second.policy.trans first.policy⟩

namespace Steady

theorem of_same (settings : after.settings = before.settings)
    (policy : after.decider.policy = before.decider.policy)
    (target : after.target = before.target) : Steady before after :=
  ⟨⟨settings, policy⟩, target⟩

protected theorem refl (controller : Controller) : Steady controller controller :=
  of_same rfl rfl rfl

protected theorem trans (first : Steady before middle) (second : Steady middle after) :
    Steady before after :=
  ⟨first.toSamePolicy.trans second.toSamePolicy, second.target.trans first.target⟩

/-- Where the target stays, the alerts are about something else. -/
theorem tells {alerts : List Alert} (steady : Steady before after)
    (logged : Logs alerts before after) (others : ∀ alert ∈ alerts, alert.isScaling = false) :
    Tells alerts before after := by
  refine ⟨steady.toSamePolicy, logged, ?_⟩
  have none : alerts.filter Alert.isScaling = [] :=
    List.filter_eq_nil_iff.mpr fun alert member => by simp [others alert member]
  rw [none, steady.target]
  rfl

end Steady

namespace Tells

protected theorem refl (controller : Controller) : Tells [] controller controller :=
  (Steady.refl controller).tells (.of_same rfl) (by simp)

protected theorem trans {early late : List Alert} (first : Tells early before middle)
    (second : Tells late middle after) : Tells (early ++ late) before after := by
  refine ⟨first.toSamePolicy.trans second.toSamePolicy, first.logged.trans second.logged, ?_⟩
  rw [List.filter_append, Alert.replay_append, first.replayed, Option.bind_some, second.replayed]

end Tells

theorem Requested.steady {limit : Nat} (requested : Requested limit before after) :
    Steady before after := by
  rw [requested.frame]
  exact .of_same rfl rfl rfl

theorem Granted.steady {allocation : Allocation} (granted : Granted before allocation after) :
    Steady before after := by
  cases granted <;> exact .of_same rfl rfl rfl

theorem Ended.steady {completion : Completion} {world : World}
    (ended : Ended surroundings before completion world after) : Steady before after := by
  cases ended with
  | buried | dropped => exact .of_same rfl rfl rfl
  | ignored => exact .refl before
  | replaced =>
      have dropped (alert : Alert) :
          Steady before ((before.dropReplica completion.replica).alert alert) :=
        .of_same rfl rfl rfl
      exact (dropped _).trans (requestMissing_requested ..).steady

theorem Finished.steady {work : Work} {now : Nat} {result : Except ClusterError Unit}
    (finished : Finished before now work result after) : Steady before after := by
  cases finished with
  | launched landed => cases landed <;> exact .of_same rfl rfl rfl
  | stopped | released => exact .of_same rfl rfl rfl

theorem onFinished_steady (controller : Controller)
    (others : List (Work × Except ClusterError Unit)) (work : Work)
    (result : Except ClusterError Unit) (now : Nat) :
    Steady controller ((controller.withFinished others).onFinished work result now) := by
  have taken : Steady controller (controller.withFinished others) := .of_same rfl rfl rfl
  exact taken.trans (onFinished_finished ..).steady

theorem Halted.steady {victim : Option Replica} (halted : Halted before victim after) :
    Steady before after := by
  rw [halted.frame]
  exact .of_same rfl rfl rfl

theorem handleEvent_steady (surroundings : Surroundings World) (controller : Controller)
    (event : ClusterEvent) (world : World) :
    Steady controller (controller.handleEvent surroundings event world).1 := by
  have handled : Steady controller (controller.onEvent surroundings event world).1 := by
    cases event with
    | allocated allocations =>
        exact allocated_keeps (Steady controller) allocations
          (fun _ _ _ _ granted held => held.trans granted.steady) (.refl controller)
    | completed completions =>
        exact completions_keep surroundings (Steady controller) completions
          (fun _ _ _ _ _ ended held => held.trans ended.steady) (.refl controller) world
    | launchFailed replica reason =>
        exact (onCompleted_ended ..).steady.trans (.of_same rfl rfl rfl)
    | trouble | resourcesUpdated | shutdownRequested => exact .of_same rfl rfl rfl
  exact handled.trans (.of_same rfl rfl rfl)

/-! ## Rounds -/

theorem sampleReplicas_decider (surroundings : Surroundings World) (controller : Controller)
    (world : World) :
    (controller.sampleReplicas surroundings world).2.1.decider = controller.decider := by
  simp only [sampleReplicas_eq]
  rw [recordSamples_frame]

/-- The decision of a round is made by the decider that the controller had, on the target that it
had. -/
theorem assessed_decision (surroundings : Surroundings World) (controller : Controller)
    (world : World) :
    ∃ load, (controller.assessed surroundings world).1 =
          (controller.decider.decide controller.target load (surroundings.clock world)).1 ∧
        (controller.assessed surroundings world).2.1.decider =
          (controller.decider.decide controller.target load (surroundings.clock world)).2 := by
  have replenished := replenish_replenished surroundings controller (surroundings.clock world)
    world
  have sameDecider : (controller.replenish surroundings (surroundings.clock world) world).1.decider
      = controller.decider := by
    rw [replenished.frame]
  have sameTarget := assessed_target surroundings controller world
  simp only [assessed, assess] at sameTarget ⊢
  rw [sameTarget, sampleReplicas_decider, sameDecider]
  exact ⟨_, rfl, rfl⟩

/-- Before a round decides, it keeps the target and the policy. -/
theorem assessed_steady (surroundings : Surroundings World) (controller : Controller)
    (world : World) : Steady controller (controller.assessed surroundings world).2.1 := by
  rcases assessed_decision surroundings controller world with ⟨load, -, decider⟩
  refine .of_same ?_ ?_ (assessed_target ..)
  · rw [(assessed_sampled surroundings controller world).frame,
      (replenish_replenished surroundings controller (surroundings.clock world) world).frame]
  · rw [decider, ScalingDecider.decide_policy]

theorem Acted.samePolicy {target : Nat} {world : World}
    (acted : Acted surroundings before target world after) : SamePolicy before after := by
  have rescaled (event : String) (now : Nat) :
      SamePolicy before (before.rescale event target now) :=
    ⟨rfl, rfl⟩
  cases acted with
  | raised => exact (rescaled _ _).trans (requestMissing_requested ..).steady.toSamePolicy
  | lowered =>
      have halting :=
        (before.rescale "Scale down" target (surroundings.epoch world)).stopOldest_halted
      rcases halting with ⟨victim, halted⟩
      exact (rescaled _ _).trans halted.steady.toSamePolicy
  | trimmed =>
      rcases before.stopOldest_halted with ⟨victim, halted⟩
      exact halted.steady.toSamePolicy
  | kept => exact ⟨rfl, rfl⟩

/-- What a step records of the target. A round that moves it, by one, records exactly the event
about that, and a round that leaves it records nothing. No other step moves it, or records such an
event. -/
inductive Moves (before after : Nat) : Label → List Alert → Prop
  | stayed (same : after = before) : Moves before after .tick []
  | moved (event : String) (time : Nat) (byOne : after = before + 1 ∨ after + 1 = before) :
      Moves before after .tick [.scalingEvent event before after time]
  | elsewhere {label : Label} {alerts : List Alert} (noRound : label ≠ .tick)
      (same : after = before) (others : ∀ alert ∈ alerts, alert.isScaling = false) :
      Moves before after label alerts

/-- A change of the target by one can be read off its event. -/
theorem Retargeted.replay {former target : Nat} {alerts : List Alert}
    (retargeted : Retargeted former target alerts)
    (near : target ≤ former + 1 ∧ former ≤ target + 1) :
    Alert.replay former (alerts.filter Alert.isScaling) = some target ∧
      Moves former target .tick alerts := by
  cases retargeted with
  | steady same => exact ⟨congrArg some same.symm, .stayed same⟩
  | raised higher time =>
      obtain rfl : target = former + 1 := by omega
      refine ⟨?_, .moved _ _ (.inl rfl)⟩
      change Alert.replay former [_] = _
      rw [Alert.replay, List.foldlM_cons, Alert.rescaled?_up]
      rfl
  | lowered lower time =>
      obtain rfl : former = target + 1 := by omega
      refine ⟨?_, .moved _ _ (.inr rfl)⟩
      change Alert.replay (target + 1) [_] = _
      rw [Alert.replay, List.foldlM_cons, Alert.rescaled?_down]
      rfl

/-! ## Steps -/

/-- The target lies within the bounds of the policy in the settings, which is also the decider's. -/
structure InBounds (controller : Controller) : Prop where
  policy : controller.decider.policy = controller.settings.policy
  admitted : controller.settings.policy.Admits controller.target

namespace InBounds

theorem ofSettings (settings : ControllerSettings) : InBounds (.ofSettings settings) :=
  ⟨rfl, settings.policy.admits_minimum⟩

theorem of_samePolicy (bounded : InBounds before) (same : SamePolicy before after)
    (admitted : before.settings.policy.Admits after.target) : InBounds after := by
  refine ⟨?_, ?_⟩
  · rw [same.policy, same.settings, bounded.policy]
  · rw [same.settings]
    exact admitted

theorem of_steady (bounded : InBounds before) (steady : Steady before after) : InBounds after :=
  bounded.of_samePolicy steady.toSamePolicy (steady.target ▸ bounded.admitted)

/-- Starting sets a target within the bounds, or leaves the target as it was. -/
theorem started (bounded : InBounds before) (world : World) :
    InBounds (before.startUp surroundings world).2.1 := by
  simp only [startUp]
  generalize before.callRegister surroundings world = called
  rcases called with ⟨_ | registration, background, later⟩
  · exact bounded.of_steady (.of_same rfl rfl rfl)
  · rcases adoptPrevious_frame registration.previous (surroundings.epoch later)
      { before with background := background, available := registration.available } with
      ⟨running, aggregator, adopted⟩
    dsimp only
    rw [adopted]
    refine InBounds.of_steady ?_
      ((requestMissing_requested ..).steady.trans (.of_same rfl rfl rfl))
    refine ⟨bounded.policy, ?_⟩
    change before.settings.policy.Admits (before.decider.policy.clamp _)
    rw [bounded.policy]
    exact before.settings.policy.admits_clamp _

/-- A round moves the target by one at most, within the bounds. -/
theorem ticked (bounded : InBounds before) (surroundings : Surroundings World) (world : World) :
    let after := (before.tick surroundings world).1
    SamePolicy before after ∧
      (after.target ≤ before.target + 1 ∧ before.target ≤ after.target + 1) ∧ InBounds after := by
  intro after
  rcases assessed_decision surroundings before world with ⟨load, decision, -⟩
  have near := before.decider.decide_cases before.target load (surroundings.clock world)
  have admitted := before.decider.admits_decide before.target load (surroundings.clock world)
  rw [bounded.policy, ScalingPolicy.clamp_of_admits bounded.admitted, ← decision, ← tick_target]
    at near
  rw [bounded.policy, ← decision, ← tick_target] at admitted
  rcases tick_acted surroundings before world with ⟨reached, ticked, acted⟩
  have same : SamePolicy before after := by
    have assessed := assessed_steady surroundings before world
    have published : SamePolicy reached after := by
      rw [show after = _ from ticked]
      exact ⟨rfl, rfl⟩
    exact (assessed.toSamePolicy.trans acted.samePolicy).trans published
  have byOne : (before.tick surroundings world).1.target ≤ before.target + 1 ∧
      before.target ≤ (before.tick surroundings world).1.target + 1 := by omega
  exact ⟨same, byOne, bounded.of_samePolicy same admitted⟩

end InBounds

/-- Every step but a round and the start leaves the target as it is. -/
theorem Step.steady {label : Label} (step : Step surroundings label before after)
    (ongoing : label.isStart = false) (noRound : label ≠ .tick) : Steady before after := by
  cases step with
  | start => cases ongoing
  | tick => exact absurd rfl noRound
  | event event world => exact handleEvent_steady ..
  | outcome ready world => exact onFinished_steady ..
  | progress => exact .of_same rfl rfl rfl

theorem Step.inBounds {label : Label} (step : Step surroundings label before after)
    (bounded : InBounds before) : InBounds after := by
  cases step with
  | start world => exact bounded.started world
  | tick world => exact (bounded.ticked surroundings world).2.2
  | event event world => exact bounded.of_steady (handleEvent_steady ..)
  | outcome ready world => exact bounded.of_steady (onFinished_steady ..)
  | progress => exact bounded.of_steady (.of_same rfl rfl rfl)

theorem Run.inBounds {labels : List Label} {controller : Controller}
    (run : Run surroundings labels controller) : InBounds controller := by
  induction run with
  | initial settings => exact .ofSettings settings
  | step _ step ih => exact step.inBounds ih

/-- A step of the started controller tells of its target, which a round moves by one at most and
every other step leaves as it is. -/
theorem Step.tells {earlier : List Label} {label : Label} (run : Run surroundings earlier before)
    (step : Step surroundings label before after) (ongoing : label.isStart = false) :
    ∃ alerts, Tells alerts before after ∧ Moves before.target after.target label alerts := by
  rcases step.tellsOf run.identified with ⟨losses, others, logged, besides, reported, -⟩
  have failures : ∀ alert ∈ losses.map Loss.alert, alert.isScaling = false := by
    intro alert member
    rcases List.mem_map.mp member with ⟨loss, -, rfl⟩
    rfl
  cases besides with
  | round retargeted =>
      cases step with
      | tick world =>
        -- A round takes in no failure.
        obtain rfl : losses = [] := by
          rw [List.eq_nil_iff_forall_not_mem]
          exact fun loss member => List.not_mem_nil (reported _ (List.mem_map_of_mem member))
        rcases run.inBounds.ticked surroundings world with ⟨same, near, -⟩
        rcases retargeted.replay near with ⟨replayed, moves⟩
        exact ⟨others, ⟨same, logged, replayed⟩, moves⟩
  | trouble reason time =>
      have steady := step.steady ongoing (by simp)
      have elsewhere : ∀ alert ∈ losses.map Loss.alert ++
          [⟨"allocator_error", reason, .warning, time⟩], alert.isScaling = false :=
        List.forall_mem_append.mpr ⟨failures, List.forall_mem_singleton.mpr rfl⟩
      exact ⟨_, steady.tells logged elsewhere, .elsewhere (by simp) steady.target elsewhere⟩
  | nothing noRound =>
      have steady := step.steady ongoing noRound
      rw [List.append_nil] at logged
      exact ⟨_, steady.tells logged failures, .elsewhere noRound steady.target failures⟩

/-- The alerts that the steps of a course record, one step after the other. -/
inductive Trail (surroundings : Surroundings World) (origin : Controller) :
    List Label → List Alert → Controller → Prop
  | stay : Trail surroundings origin [] [] origin
  | step {labels : List Label} {label : Label} {alerts more : List Alert}
      {before after : Controller} (trail : Trail surroundings origin labels alerts before)
      (step : Step surroundings label before after) (tells : Tells more before after)
      (moves : Moves before.target after.target label more) :
      Trail surroundings origin (labels ++ [label]) (alerts ++ more) after

/-- The alerts of a whole course lead from target to target. -/
theorem Trail.tells {labels : List Label} {alerts : List Alert}
    (trail : Trail surroundings before labels alerts after) : Tells alerts before after := by
  induction trail with
  | stay => exact .refl before
  | step _ _ tells _ ih => exact ih.trans tells

theorem Course.trail {earlier later : List Label}
    (course : Course surroundings before later after) (run : Run surroundings earlier before)
    (ongoing : ∀ label ∈ later, label.isStart = false) :
    ∃ alerts, Trail surroundings before later alerts after := by
  induction course with
  | stay => exact ⟨[], .stay⟩
  | @step labels label middle after course step ih =>
      rcases ih fun other member => ongoing other (List.mem_append_left _ member) with
        ⟨alerts, trail⟩
      have last := ongoing label (List.mem_append_right _ List.mem_cons_self)
      rcases step.tells (run.extend course) last with ⟨more, tells, moves⟩
      exact ⟨alerts ++ more, trail.step step tells moves⟩

/-- A step that moves the target is a round, and leaves the event about that at the end of the
log. -/
theorem Tells.getLast?_of_moves {label : Label} {alerts : List Alert}
    (tells : Tells alerts before after) (moves : Moves before.target after.target label alerts)
    (moved : after.target ≠ before.target) :
    label = .tick ∧ ∃ event time, after.aggregator.alerts.items.getLast? =
      some (.scalingEvent event before.target after.target time) := by
  cases moves with
  | stayed same => exact absurd same moved
  | elsewhere _ same => exact absurd same moved
  | moved event time => exact ⟨rfl, event, time, @Logs.getLast?_items _ _ [] _ tells.logged⟩

/-- The target is bounded, and its changes can be audited. In every run it lies within the bounds of
the policy. From any controller in a run, as long as it is not started again, the log holds the last
ones of the alerts that it held and of those that the steps recorded since; of these, the events
about the target lead from the one that it had to the one that it has. Every step but a round leaves
the target as it is and records no such event. A round may move it by one, and records one event
with the target before and after if it does, which then stands at the end of the log. -/
theorem target_audited {earlier later : List Label} {origin controller : Controller}
    (run : Run surroundings earlier origin) (course : Course surroundings origin later controller)
    (ongoing : ∀ label ∈ later, label.isStart = false) :
    controller.settings.policy.Admits controller.target ∧
      (∃ alerts, Trail surroundings origin later alerts controller ∧
        Tells alerts origin controller) ∧
      ∀ label after, Step surroundings label controller after → label.isStart = false →
        (∃ alerts, Tells alerts controller after ∧
          Moves controller.target after.target label alerts) ∧
        (after.target ≠ controller.target → label = .tick ∧
          ∃ event time, after.aggregator.alerts.items.getLast? =
            some (.scalingEvent event controller.target after.target time)) := by
  have reached := run.extend course
  refine ⟨reached.inBounds.admitted, ?_, ?_⟩
  · rcases course.trail run ongoing with ⟨alerts, trail⟩
    exact ⟨alerts, trail, trail.tells⟩
  · intro label after step notStart
    rcases step.tells reached notStart with ⟨alerts, tells, moves⟩
    exact ⟨⟨alerts, tells, moves⟩, tells.getLast?_of_moves moves⟩

/-- The registration hands over three containers. -/
def threeAdopted : Surroundings Unit :=
  standstill [bareAllocation "first", bareAllocation "second", bareAllocation "third"]

/-- The controller after it adopted three replicas. -/
def afterThreeAdopted : Controller := ((ofSettings plainSettings).startUp threeAdopted ()).2.1

/-- Two idle rounds lower the target from three to one, and the log tells of both changes. -/
theorem two_rounds_replayed :
    ∃ earlier controller, Run threeAdopted earlier afterThreeAdopted ∧
      Course threeAdopted afterThreeAdopted [.tick, .tick] controller ∧
      (∀ label ∈ [Label.tick, .tick], label.isStart = false) ∧
      afterThreeAdopted.target = 3 ∧ controller.target = 1 ∧
      controller.settings.policy.Admits controller.target ∧
      controller.aggregator.alerts.items =
        [.scalingEvent "Scale down" 3 2 0, .scalingEvent "Scale down" 2 1 0] ∧
      ∃ alerts, Trail threeAdopted afterThreeAdopted [.tick, .tick] alerts controller ∧
        Tells alerts afterThreeAdopted controller := by
  have run := (@Run.initial Unit threeAdopted plainSettings).step (.start ())
  have course := ((@Course.stay Unit threeAdopted afterThreeAdopted).step (.tick ())).step
    (.tick ())
  have ongoing : ∀ label ∈ [Label.tick, .tick], label.isStart = false := by simp [Label.isStart]
  rcases target_audited run course ongoing with ⟨admitted, told, -⟩
  exact ⟨_, _, run, course, ongoing, by decide, by decide +kernel, admitted, by decide +kernel,
    told⟩

end Controller

end Fleet
