import Fleet.Proofs.Controller.Containers
import Fleet.Proofs.Controller.Sampling

/-!
# What starting and rounds do

Starting adopts the containers of an earlier attempt and requests what is missing. A round gives
back what could not be given back, requests what is missing, samples the running set and acts on
the target that was decided. It neither adds a replica nor removes one. At most one replica is
asked to stop, and the committed replicas exceed neither what they were nor the targets before and
after the round.
-/

namespace Fleet.Controller

variable {World : Type}

theorem start_committed (controller : Controller) (work : Work) :
    (controller.start work).committed = controller.committed := rfl

/-! ## Starting -/

/-- What adopting a new container keeps, adopting those of an earlier attempt keeps. -/
theorem adoptPrevious_keeps (Holds : Controller → Prop) (previous : List Allocation) (now : Nat)
    (kept : ∀ allocation ∈ previous, ∀ reached : Controller,
      reached.isKnown allocation.replica = false → Holds reached →
        Holds (reached.adopt allocation.toReplica now))
    {controller : Controller} (holds : Holds controller) :
    Holds (controller.adoptPrevious previous now) := by
  apply List.foldlRecOn previous _ holds
  intro reached held allocation member
  by_cases known : reached.isKnown allocation.replica
  · rw [if_pos known]
    exact held
  · rw [if_neg known]
    rw [Bool.not_eq_true] at known
    exact kept allocation member reached known held

theorem adoptPrevious_frame (previous : List Allocation) (now : Nat) (controller : Controller) :
    ∃ running aggregator, controller.adoptPrevious previous now =
      { controller with running := running, aggregator := aggregator } := by
  apply adoptPrevious_keeps fun reached => ∃ running aggregator,
    reached = { controller with running := running, aggregator := aggregator }
  · rintro allocation _ reached _ ⟨running, aggregator, rfl⟩
    exact ⟨_, _, rfl⟩
  · exact ⟨controller.running, controller.aggregator, rfl⟩

/-- What starting can do: the registration fails, or its containers are adopted. -/
inductive Started (surroundings : Surroundings World) (controller : Controller) :
    Except ClusterError Registration → Except ClusterError Unit → Controller → Prop
  | refused {background : Background}
      (evolved : Background.Evolves 0 controller.background background) (failure : ClusterError) :
      Started surroundings controller (.error failure) (.error failure)
        { controller with background := background, isBroken := failure = .delayOutOfRange }
  | registered {background : Background}
      (evolved : Background.Evolves 0 controller.background background)
      (registration : Registration) (now target : Nat) (world : World) :
      Started surroundings controller (.ok registration) (.ok ())
        ({ { controller with
              background := background
              available := registration.available }.adoptPrevious registration.previous now with
            target := target }.requestMissing surroundings world).1.publish

theorem startUp_started (surroundings : Surroundings World) (controller : Controller)
    (world : World) :
    Started surroundings controller (controller.callRegister surroundings world).1
      (controller.startUp surroundings world).1
      (controller.startUp surroundings world).2.1 := by
  have evolved := callRegister_evolves surroundings controller world
  simp only [startUp]
  generalize controller.callRegister surroundings world = called at evolved ⊢
  rcases called with ⟨result, background, later⟩
  cases result with
  | error failure => exact .refused evolved failure
  | ok registration => exact .registered evolved registration _ _ later

/-! ## Giving back and requesting -/

theorem foldl_start_release (ids : List String) (controller : Controller) :
    ∃ background,
      ids.foldl (fun controller id => controller.start (.release id)) controller =
          { controller with background := background } ∧
        Background.Evolves (ids.map Work.release : List Work) controller.background
          background := by
  induction ids generalizing controller with
  | nil => exact ⟨controller.background, rfl, .refl controller.background⟩
  | cons id rest ih =>
      rcases ih (controller.start (.release id)) with ⟨background, folded, evolved⟩
      refine ⟨background, folded, ?_⟩
      have started := controller.background.start_evolves (.release id)
      simpa only [List.map_cons, ← Multiset.cons_coe, ← Multiset.singleton_add,
        add_comm {Work.release id}] using started.trans evolved

theorem retryReleases_frame (controller : Controller) :
    ∃ background, controller.retryReleases =
        { controller with unreleased := ∅, background := background } ∧
      Background.Evolves (controller.unreleased.keys.map Work.release : List Work)
        controller.background background :=
  foldl_start_release controller.unreleased.keys { controller with unreleased := ∅ }

/-- How the first part of a round changes a controller. -/
structure Replenished (before after : Controller) : Prop where
  frame : after =
    { before with
      background := after.background
      pending := after.pending
      nextRequest := after.nextRequest
      isBroken := after.isBroken
      unreleased := ∅ }
  outstanding : after.background.outstanding =
    (before.unreleased.keys.map Work.release : List Work) + before.background.outstanding
  committed_le : after.committed ≤ max before.committed before.target

theorem Replenished.sameRoster {before after : Controller}
    (replenished : Replenished before after) : SameRoster before after := by
  rw [replenished.frame]
  exact ⟨rfl, rfl, rfl⟩

theorem committed_expirePending_le (controller : Controller) (now : Instant) :
    (controller.expirePending now).committed ≤ controller.committed := by
  have shorter := (List.dropWhile_suffix (l := controller.pending) fun request =>
    decide (controller.settings.allocationTimeout ≤ now.since request.2)).length_le
  exact Nat.add_le_add_left shorter _

theorem replenish_replenished (surroundings : Surroundings World) (controller : Controller)
    (now : Instant) (world : World) :
    Replenished controller (controller.replenish surroundings now world).1 := by
  rcases (controller.expirePending now).retryReleases_frame with ⟨background, retried, evolved⟩
  have requested := requestMissing_requested surroundings
    (controller.expirePending now).retryReleases world
  have bound := committed_requestMissing_le surroundings
    (controller.expirePending now).retryReleases world
  simp only [replenish]
  rw [retried] at requested bound ⊢
  refine ⟨requested.frame, ?_, ?_⟩
  · rw [requested.outstanding]
    exact evolved.outstanding
  · exact bound.trans (max_le_max_right _ (committed_expirePending_le controller now))

/-! ## Sampling and deciding -/

namespace Sampled

variable {before after : Controller}

theorem sameRoster (sampled : Sampled before after) : SameRoster before after := by
  refine ⟨map_eq_of_forall₂_readied Readied.id_eq sampled.running, ?_, ?_⟩
  · rw [sampled.frame]
  · rw [sampled.frame]

theorem target_eq (sampled : Sampled before after) : after.target = before.target := by
  rw [sampled.frame]

theorem unreleased_eq (sampled : Sampled before after) :
    after.unreleased = before.unreleased := by
  rw [sampled.frame]

theorem outstanding_eq (sampled : Sampled before after) :
    after.background.outstanding = before.background.outstanding := by
  rw [sampled.frame]
  rfl

theorem activeCount_eq (sampled : Sampled before after) :
    after.activeCount = before.activeCount := by
  have flags : after.running.map Replica.isActive = before.running.map Replica.isActive :=
    map_eq_of_forall₂_readied Readied.isActive_eq sampled.running
  have count (replicas : List Replica) :
      replicas.countP Replica.isActive = (replicas.map Replica.isActive).countP id := by
    rw [List.countP_map]
    rfl
  rw [activeCount_eq_countP, activeCount_eq_countP, count, count, flags]

theorem committed_eq (sampled : Sampled before after) :
    after.committed = before.committed := by
  have pending : after.pending = before.pending := by
    rw [sampled.frame]
  rw [committed, committed, sampled.activeCount_eq, sampled.sameRoster.launching, pending]

end Sampled

/-- The second part of a round only samples and decides. -/
theorem assess_sampled (surroundings : Surroundings World) (controller : Controller)
    (now : Instant) (world : World) :
    Sampled controller (controller.assess surroundings now world).2.1 := by
  have sampled := sampleReplicas_sampled surroundings controller world
  refine ⟨?_, sampled.running, sampled.breaker⟩
  simp only [assess]
  rw [sampled.frame]

/-! ## Acting on the target -/

/-- What asking the oldest active replica to stop can do. -/
inductive Halted (controller : Controller) : Option Replica → Controller → Prop
  | idle (nobody : controller.running.find? Replica.isActive = none) :
      Halted controller none controller
  | stopped {victim : Replica}
      (found : controller.running.find? Replica.isActive = some victim) :
      Halted controller (some { victim with phase := .stopping })
        ((controller.changeReplica Replica.isActive ({ · with phase := .stopping })).start
          (.stop { victim with phase := .stopping }))

theorem stopOldest_halted (controller : Controller) :
    ∃ victim, Halted controller victim controller.stopOldest := by
  simp only [stopOldest]
  cases found : controller.running.find? Replica.isActive with
  | none => exact ⟨none, .idle found⟩
  | some replica => exact ⟨_, .stopped found⟩

/-- What acting on a target can do. -/
inductive Acted (surroundings : Surroundings World) (controller : Controller) (target : Nat)
    (world : World) : Controller → Prop
  | raised (higher : controller.target < target) :
      Acted surroundings controller target world
        ((controller.rescale "Scale up" target (surroundings.epoch world)).requestMissing
          surroundings world).1
  | lowered (lower : target < controller.target) :
      Acted surroundings controller target world
        (controller.rescale "Scale down" target (surroundings.epoch world)).stopOldest
  | trimmed (same : target = controller.target)
      (excess : controller.target < controller.activeCount) :
      Acted surroundings controller target world controller.stopOldest
  | kept (same : target = controller.target) :
      Acted surroundings controller target world controller

theorem actOnTarget_acted (surroundings : Surroundings World) (controller : Controller)
    (target : Nat) (world : World) :
    Acted surroundings controller target world
      (controller.actOnTarget surroundings target world).1 := by
  simp only [actOnTarget]
  split
  · next higher => exact .raised higher
  · next notHigher =>
      split
      · next lower => exact .lowered lower
      · next notLower =>
          have same : target = controller.target := by omega
          split
          · next excess =>
              rw [Bool.and_eq_true, decide_eq_true_eq] at excess
              exact .trimmed same excess.1
          · exact .kept same

namespace Halted

variable {controller after : Controller} {victim : Option Replica}

theorem frame (halted : Halted controller victim after) :
    after =
      { controller with running := after.running, background := after.background } := by
  cases halted <;> rfl

theorem sameRoster (halted : Halted controller victim after) : SameRoster controller after := by
  cases halted with
  | idle => exact .refl controller
  | stopped =>
      refine ⟨?_, rfl, rfl⟩
      change (changeFirst Replica.isActive _ controller.running).map Replica.id = _
      apply map_changeFirst
      intro replica
      rfl

theorem target_eq (halted : Halted controller victim after) :
    after.target = controller.target := by
  rw [halted.frame]

theorem unreleased_eq (halted : Halted controller victim after) :
    after.unreleased = controller.unreleased := by
  rw [halted.frame]

theorem evolves (halted : Halted controller victim after) :
    Background.Evolves (victim.toList.map Work.stop : List Work) controller.background
      after.background := by
  cases halted with
  | idle => exact .refl _
  | stopped => exact controller.background.start_evolves _

theorem activeCount_eq (halted : Halted controller victim after) :
    after.activeCount + victim.toList.length = controller.activeCount := by
  rw [activeCount_eq_countP, activeCount_eq_countP]
  cases halted with
  | idle => rfl
  | stopped found => exact countP_changeFirst_stopping found

/-- The replica that is asked to stop is committed no more. -/
theorem committed_eq (halted : Halted controller victim after) :
    after.committed + victim.toList.length = controller.committed := by
  have active := halted.activeCount_eq
  rw [halted.frame] at active ⊢
  simp only [committed]
  omega

theorem committed_le (halted : Halted controller victim after) :
    after.committed ≤ controller.committed := by
  have counted := halted.committed_eq
  omega

end Halted

theorem rescale_sameRoster (controller : Controller) (event : String) (target now : Nat) :
    SameRoster controller (controller.rescale event target now) :=
  ⟨rfl, rfl, rfl⟩

/-- What acting on a target changes: at most one replica is asked to stop, and that only where the
target falls or is exceeded. -/
structure Steered (before after : Controller) : Prop extends SameRoster before after where
  unreleased : after.unreleased = before.unreleased
  work : ∃ victim : Option Replica,
    after.background.outstanding =
        (victim.toList.map Work.stop : List Work) + before.background.outstanding ∧
      after.activeCount + victim.toList.length = before.activeCount ∧
      (victim.isSome →
        after.target < before.target ∨
          after.target = before.target ∧ after.target < before.activeCount)
  committed_le : after.committed ≤ max before.committed after.target

theorem Acted.steered {surroundings : Surroundings World} {controller after : Controller}
    {target : Nat} {world : World} (acted : Acted surroundings controller target world after) :
    Steered controller after := by
  cases acted with
  | raised higher =>
      have requested := requestMissing_requested surroundings
        (controller.rescale "Scale up" target (surroundings.epoch world)) world
      refine ⟨(rescale_sameRoster ..).trans requested.sameRoster, requested.unreleased_eq,
        ⟨none, ?_, ?_, by simp⟩, ?_⟩
      · rw [requested.outstanding]
        exact (zero_add _).symm
      · exact requested.activeCount_eq
      · rw [requested.target_eq]
        exact committed_requestMissing_le ..
  | lowered lower =>
      have halting :=
        (controller.rescale "Scale down" target (surroundings.epoch world)).stopOldest_halted
      rcases halting with ⟨victim, halted⟩
      refine ⟨(rescale_sameRoster ..).trans halted.sameRoster, halted.unreleased_eq,
        ⟨victim, halted.evolves.outstanding, halted.activeCount_eq, fun _ => Or.inl ?_⟩, ?_⟩
      · rw [halted.target_eq]
        exact lower
      · exact halted.committed_le.trans (le_max_left _ _)
  | trimmed same excess =>
      rcases controller.stopOldest_halted with ⟨victim, halted⟩
      refine ⟨halted.sameRoster, halted.unreleased_eq,
        ⟨victim, halted.evolves.outstanding, halted.activeCount_eq, fun _ => Or.inr ?_⟩, ?_⟩
      · exact ⟨halted.target_eq, halted.target_eq ▸ excess⟩
      · exact halted.committed_le.trans (le_max_left _ _)
  | kept same =>
      exact ⟨.refl controller, rfl, ⟨none, (zero_add _).symm, rfl, by simp⟩, le_max_left _ _⟩

theorem Acted.target_eq {surroundings : Surroundings World} {controller after : Controller}
    {target : Nat} {world : World} (acted : Acted surroundings controller target world after) :
    after.target = target := by
  cases acted with
  | raised => exact (requestMissing_requested ..).target_eq
  | lowered =>
      have halting :=
        (controller.rescale "Scale down" target (surroundings.epoch world)).stopOldest_halted
      rcases halting with ⟨victim, halted⟩
      exact halted.target_eq
  | trimmed same =>
      rcases controller.stopOldest_halted with ⟨victim, halted⟩
      exact halted.target_eq.trans same.symm
  | kept same => exact same.symm

/-! ## The round as a whole -/

/-- What a round does to the containers and to their number. -/
structure Ticked (before after : Controller) : Prop extends SameRoster before after where
  unreleased : after.unreleased = ∅
  work : ∃ victim : Option Replica,
    after.background.outstanding =
        (victim.toList.map Work.stop : List Work) +
          (before.unreleased.keys.map Work.release : List Work) +
          before.background.outstanding ∧
      after.activeCount + victim.toList.length = before.activeCount ∧
      (victim.isSome →
        after.target < before.target ∨
          after.target = before.target ∧ after.target < before.activeCount)
  committed_le : after.committed ≤ max before.committed (max before.target after.target)

/-- A round up to the decision on its target. -/
def assessed (surroundings : Surroundings World) (controller : Controller) (world : World) :
    Nat × Controller × World :=
  let first := controller.replenish surroundings (surroundings.clock world) world
  first.1.assess surroundings (surroundings.clock world) first.2

theorem assessed_sampled (surroundings : Surroundings World) (controller : Controller)
    (world : World) :
    Sampled (controller.replenish surroundings (surroundings.clock world) world).1
      (controller.assessed surroundings world).2.1 :=
  assess_sampled ..

/-- A round replenishes, samples, and acts on a target. -/
theorem tick_eq (surroundings : Surroundings World) (controller : Controller) (world : World) :
    controller.tick surroundings world =
      let assessed := controller.assessed surroundings world
      let acted := assessed.2.1.actOnTarget surroundings assessed.1 assessed.2.2
      (acted.1.publish, acted.2) := by
  simp only [tick, assessed]

theorem tick_acted (surroundings : Surroundings World) (controller : Controller)
    (world : World) :
    ∃ after, (controller.tick surroundings world).1 = after.publish ∧
      Acted surroundings (controller.assessed surroundings world).2.1
        (controller.assessed surroundings world).1 (controller.assessed surroundings world).2.2
        after :=
  ⟨_, congrArg Prod.fst (tick_eq surroundings controller world), actOnTarget_acted ..⟩

theorem tick_world (surroundings : Surroundings World) (controller : Controller) (world : World) :
    (controller.tick surroundings world).2 =
      ((controller.assessed surroundings world).2.1.actOnTarget surroundings
        (controller.assessed surroundings world).1
        (controller.assessed surroundings world).2.2).2 := by
  rw [tick_eq]

/-- Up to the decision the target is what it was. -/
theorem assessed_target (surroundings : Surroundings World) (controller : Controller)
    (world : World) : (controller.assessed surroundings world).2.1.target = controller.target := by
  rw [(assessed_sampled surroundings controller world).target_eq,
    (replenish_replenished surroundings controller (surroundings.clock world) world).frame]

theorem tick_target (surroundings : Surroundings World) (controller : Controller)
    (world : World) :
    (controller.tick surroundings world).1.target = (controller.assessed surroundings world).1 := by
  rcases tick_acted surroundings controller world with ⟨after, ticked, acted⟩
  rw [ticked]
  exact acted.target_eq

theorem tick_ticked (surroundings : Surroundings World) (controller : Controller)
    (world : World) : Ticked controller (controller.tick surroundings world).1 := by
  have replenished := replenish_replenished surroundings controller (surroundings.clock world)
    world
  have sampling := assessed_sampled surroundings controller world
  have sameTarget := assessed_target surroundings controller world
  rcases tick_acted surroundings controller world with ⟨after, ticked, acted⟩
  generalize (controller.replenish surroundings (surroundings.clock world) world).1 = first
    at replenished sampling
  generalize (controller.assessed surroundings world).2.1 = sampled
    at sampling sameTarget acted
  have steered := acted.steered
  rcases steered.work with ⟨victim, outstanding, active, allowed⟩
  have published : SameRoster after after.publish := ⟨rfl, rfl, rfl⟩
  have sameActive : sampled.activeCount = controller.activeCount := by
    rw [sampling.activeCount_eq, replenished.frame]
    rfl
  have unreleased : sampled.unreleased = ∅ := by
    rw [sampling.unreleased_eq, replenished.frame]
  rw [sameTarget, sameActive] at allowed
  rw [ticked]
  refine ⟨?_, steered.unreleased.trans unreleased, ⟨victim, ?_, active.trans sameActive, allowed⟩,
    ?_⟩
  · exact ((replenished.sameRoster.trans sampling.sameRoster).trans steered.toSameRoster).trans
      published
  · calc
      after.background.outstanding
        = (victim.toList.map Work.stop : List Work) + first.background.outstanding := by
          rw [outstanding, sampling.outstanding_eq]
      _ = _ := by
          rw [replenished.outstanding, add_assoc]
  · have sampledBound := sampling.committed_eq.trans_le replenished.committed_le
    exact (steered.committed_le.trans (max_le_max_right _ sampledBound)).trans
      (max_assoc ..).le

end Fleet.Controller
