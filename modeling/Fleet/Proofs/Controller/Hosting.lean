import Fleet.Proofs.Controller.Driving
import Fleet.Proofs.Controller.Endings
import Fleet.Proofs.Controller.Seniority

/-!
# The controller on a local cluster

The controller and a local cluster keep books of their own, and hear of each other by calls and by
a queue of events. Processes end whenever they like: before, during and after the launch of their
containers, and before and after a stop. What carries the argument over all that is the count of
each container: the places in the controller and the queued grants together hold every placed
container once. It is known what lies ready, too: a launch that succeeded has its container placed,
unless its end was reported or is going to be, and a release that is over has freed the place.
-/

namespace Fleet

variable {World : Type}

namespace Controller

variable {surroundings : Surroundings World} {cluster : World → LocalCluster} {id : String}

/-! ## Who comes to run -/

/-- How a container comes to run with a step: it is left from an earlier attempt, or its launch has
succeeded and its end was not reported. -/
inductive Joins (controller : Controller) (id : String) : Label → Prop
  | adopted {registration : Registration}
      (left : id ∈ registration.previous.map Allocation.replica) :
      Joins controller id (.start (.ok registration))
  | launched {replica : Replica} {label : Label}
      (ready : (Work.launch replica, .ok ()) ∈ controller.background.finished)
      (named : replica.id = id) (alive : id ∉ controller.tombstones.keys) :
      Joins controller id label

variable {before after : Controller}

theorem mem_of_mem_newcomers {ids : List String} (new : id ∈ before.newcomers ids) : id ∈ ids :=
  List.mem_of_mem_filter (List.mem_eraseDups.mp new)

/-- Whoever runs after a step ran before, or comes to run. -/
theorem Step.running_subset {label : Label} (step : Step surroundings label before after)
    (identified : Identified before) :
    ∀ id ∈ after.running.map Replica.id,
      id ∈ before.running.map Replica.id ∨ before.Joins id label := by
  intro id running
  rw [step.running_eq identified] at running
  rcases List.mem_append.mp running with kept | arrived
  · exact Or.inl (List.mem_of_mem_filter kept)
  · right
    cases step with
    | start world =>
        cases registered : (before.callRegister surroundings world).1 with
        | error failure =>
            rw [registered] at arrived
            cases arrived
        | ok registration =>
            rw [registered] at arrived
            exact .adopted (mem_of_mem_newcomers arrived)
    | @outcome _ earlier later work result ready world =>
        cases work with
        | launch replica =>
            cases result with
            | ok =>
                simp only [arrivals] at arrived
                split at arrived
                · cases arrived
                · next alive =>
                    rw [Bool.not_eq_true, SortedMap.contains_eq_false_iff] at alive
                    obtain rfl := List.mem_singleton.mp arrived
                    exact .launched (by simp [ready]) rfl alive
            | error failure => cases arrived
        | stop | release => cases arrived
    | tick | event | progress => cases arrived

/-! ## What is outstanding -/

section Outstanding

variable {background : Background} {work : Work} {result : Except ClusterError Unit}

theorem mem_releases (outstanding : work ∈ background.outstanding)
    (released : work.released? = some id) : id ∈ background.releases :=
  (Multiset.mem_filterMap _ _).mpr ⟨work, outstanding, released⟩

theorem mem_custody_of_releases {controller : Controller}
    (released : id ∈ controller.background.releases) : id ∈ controller.custody := by
  simp only [custody, Multiset.mem_add]
  exact Or.inl (Or.inr released)

end Outstanding

/-! ## The invariant -/

/-- The controller and its local cluster agree on every container. One that has a place is counted
once, in the queue or in the controller. One that runs is accounted for, and what lies ready is
borne out, a launch up to the memory of its container's end. No job has begun, since each job that
begins comes to its result at once. -/
structure Hosted (controller : Controller) (cluster : LocalCluster) : Prop where
  sound : cluster.Sound
  named : ∀ id ∈ controller.custody, cluster.Named id
  once : ∀ id ∈ cluster.placements.keys,
    controller.custody.count id + cluster.queuedGrants.count id = 1
  running : ∀ id ∈ controller.running.map Replica.id, cluster.Accounts id
  launched : ∀ replica, (Work.launch replica, .ok ()) ∈ controller.background.finished →
    cluster.Accounts replica.id ∨ replica.id ∈ controller.tombstones.keys
  released : ∀ work result, (work, result) ∈ controller.background.finished →
    ∀ id ∈ (Label.outcome work result).releases, id ∉ cluster.placements.keys
  buried : ∀ id ∈ controller.tombstones.keys, id ∉ cluster.placements.keys
  unstarted : ∀ job ∈ controller.background.jobs, job.stage = .unstarted
  intact : controller.background.lost = []

/-! ## What steps do to the cluster -/

/-- How a step changes the cluster, and what lies ready after it. -/
structure Moved (cluster : World → LocalCluster) (label : Label) (given : List String)
    (before after : Controller × World) : Prop where
  shift : LocalCluster.Shift label.grants label.completions given (cluster before.2)
    (cluster after.2)
  given : ∀ id ∈ given,
    id ∈ (cluster before.2).placements.keys ∧ id ∈ before.1.background.releases
  fresh : ∀ registration, label = .start (.ok registration) → registration.previous = []
  results : ∀ work result, (work, result) ∈ after.1.background.finished →
    (work, result) ∈ before.1.background.finished ∨ (cluster after.2).BearsOut work result
  unstarted : ∀ job ∈ after.1.background.jobs, job.stage = .unstarted
  intact : after.1.background.lost = []

/-- A handler takes results at most, and gives nothing back itself. -/
theorem Moved.of_undisturbed {before after : Controller × World}
    {finished : List (Work × Except ClusterError Unit)}
    (undisturbed : Undisturbed finished (fun world => LocalCluster.Shift label.grants
      label.completions [] (cluster before.2) (cluster world)) after.1.background after.2)
    (fewer : finished ⊆ before.1.background.finished)
    (fresh : ∀ registration, label = .start (.ok registration) → registration.previous = []) :
    Moved cluster label [] before after where
  shift := undisturbed.holds
  given := List.forall_mem_nil _
  fresh := fresh
  results _ _ ready := Or.inl (fewer (undisturbed.finished ▸ ready))
  unstarted := undisturbed.unstarted
  intact := undisturbed.intact

theorem Hosted.undisturbed {controller : Controller} {world : World} {Holds : World → Prop}
    (hosted : Hosted controller (cluster world)) (holds : Holds world) :
    Undisturbed controller.background.finished Holds controller.background world :=
  ⟨rfl, hosted.unstarted, hosted.intact, holds⟩

theorem grants_event (event : ClusterEvent) : (Label.event event).grants = event.granted := by
  cases event <;> rfl

theorem completions_event (event : ClusterEvent) :
    (Label.event event).completions = event.ended := by
  cases event <;> rfl

/-- A step of a job performs its work, unless the launcher's breaker refuses it. -/
theorem Hosted.progress (runOn : surroundings.RunOn cluster) {controller : Controller}
    {earlier later : List Job} {job : Job} {world : World}
    (hosted : Hosted controller (cluster world))
    (flying : controller.background.jobs = earlier ++ job :: later) :
    ∃ given, Moved cluster .progress given (controller, world)
      ({ controller with
          background := (Background.stepJob surroundings controller.settings
            ({ controller.background with jobs := earlier ++ later }, world) job).1 },
        (Background.stepJob surroundings controller.settings
          ({ controller.background with jobs := earlier ++ later }, world) job).2) := by
  have unstarted := hosted.unstarted
  have member : job ∈ controller.background.jobs := by simp [flying]
  have outstanding := Background.outstanding_of_flying member
  rw [flying] at unstarted
  have others : ∀ other ∈ earlier ++ later, other.stage = .unstarted := fun other there =>
    unstarted other (((List.sublist_cons_self job later).append_left earlier).subset there)
  rcases Background.stepJob_finished runOn.answersAtOnce controller.settings
    (unstarted job (by simp)) { controller.background with jobs := earlier ++ later } world with
    ⟨result, breakers, retired, stepped, came⟩
  generalize Background.stepJob surroundings controller.settings
    ({ controller.background with jobs := earlier ++ later }, world) job = reached at stepped came ⊢
  rcases reached with ⟨background, reached⟩
  obtain rfl : background = _ := stepped
  have results (borne : (cluster reached).BearsOut job.work result) (work : Work)
      (other : Except ClusterError Unit)
      (ready : (work, other) ∈ controller.background.finished ++ [(job.work, result)]) :
      (work, other) ∈ controller.background.finished ∨ (cluster reached).BearsOut work other := by
    rcases List.mem_append.mp ready with old | new
    · exact Or.inl old
    · obtain ⟨rfl, rfl⟩ := Prod.mk.inj (List.mem_singleton.mp new)
      exact Or.inr borne
  rcases came with ⟨refused, same⟩ | performed
  · obtain rfl : reached = world := same
    refine ⟨[], hosted.sound.refl, List.forall_mem_nil _, by rintro _ ⟨⟩, results ⟨?_, ?_⟩, others,
      hosted.intact⟩
    · rintro _ _ launched
      rw [refused] at launched
      cases launched
    · rw [refused]
      cases job.work <;> exact List.forall_mem_nil _
  · rcases runOn.perform controller.settings.plan job.work hosted.sound (fun id released =>
      hosted.named id (mem_custody_of_releases (mem_releases outstanding released))) with
      ⟨given, shift, places, borne⟩
    rw [performed] at shift borne
    exact ⟨given, shift, fun id member => (places id member).imp_right (mem_releases outstanding),
      by rintro _ ⟨⟩, results borne, others, hosted.intact⟩

theorem Advance.moved (runOn : surroundings.RunOn cluster) {before after : Controller × World}
    (advance : Advance surroundings label before after)
    (hosted : Hosted before.1 (cluster before.2)) :
    ∃ given, Moved cluster label given before after := by
  have answers := runOn.answersAtOnce
  cases advance with
  | start controller world =>
      -- A local cluster hands over no container of an earlier attempt.
      have registered : (controller.callRegister surroundings world).1 =
          (cluster world).register.1 := by
        rw [callRegister_eq answers]
        exact (runOn.register world).1
      have fresh (registration : Registration)
          (started : Label.start (controller.callRegister surroundings world).1 =
            .start (.ok registration)) : registration.previous = [] := by
        rw [registered] at started
        exact LocalCluster.previous_of_registered (Label.start.inj started)
      have grants : (Label.start (controller.callRegister surroundings world).1).grants = [] := by
        cases answered : (controller.callRegister surroundings world).1 with
        | error failure => rfl
        | ok registration => rw [Label.grants, fresh registration (by rw [answered])]; rfl
      refine ⟨[], .of_undisturbed ?_ (List.Subset.refl _) fresh⟩
      rw [grants]
      exact (answers.sustains runOn.keeps).startUp (hosted.undisturbed hosted.sound.refl)
  | tick controller world =>
      refine ⟨[], .of_undisturbed ?_ (List.Subset.refl _) (by rintro _ ⟨⟩)⟩
      exact .of_upToStop ((answers.sustains runOn.keeps).tick
        (hosted.undisturbed hosted.sound.refl))
  | @deliver controller event world later received =>
      have serves := runOn.receive world
      have taken : (cluster world).next? = (some event, (cluster world).next?.2) :=
        Prod.ext (serves.1.symm.trans (congrArg Prod.fst received)) rfl
      have shift := serves.shift (hosted.sound.next? taken)
      rw [received] at shift
      refine ⟨[], .of_undisturbed ?_ (List.Subset.refl _) (by rintro _ ⟨⟩)⟩
      rw [grants_event, completions_event]
      exact (answers.sustains runOn.keeps).handleEvent event
        ⟨rfl, hosted.unstarted, hosted.intact, shift⟩
  | @take controller earlier later work result ready world =>
      have taken : Undisturbed (earlier ++ later)
          (fun reached => LocalCluster.Quiet (cluster world) (cluster reached))
          (controller.withFinished (earlier ++ later)).background world :=
        ⟨rfl, hosted.unstarted, hosted.intact, hosted.sound.refl⟩
      refine ⟨[], .of_undisturbed ((onFinished_finished ..).undisturbed taken) ?_
        (by rintro _ ⟨⟩)⟩
      rw [ready]
      exact ((List.sublist_cons_self _ later).append_left earlier).subset
  | progress flying world => exact hosted.progress runOn flying

/-! ## What one step preserves -/

theorem Step.released {before after : Controller} (step : Step surroundings label before after)
    (shown : id ∈ label.releases) :
    ∃ work result, (work, result) ∈ before.background.finished ∧
      id ∈ (Label.outcome work result).releases := by
  cases step with
  | outcome ready world => exact ⟨_, _, by simp [ready], shown⟩
  | start | tick | event | progress => exact absurd shown List.not_mem_nil

theorem Identified.launching_of_ready {controller : Controller} (identified : Identified controller)
    {replica : Replica} {result : Except ClusterError Unit}
    (ready : (Work.launch replica, result) ∈ controller.background.finished) :
    replica.id ∈ controller.launching.keys := by
  rw [← Multiset.mem_coe, ← identified.launches]
  exact (Multiset.mem_filterMap _ _).mpr ⟨_, Background.outstanding_of_ready ready, rfl⟩

theorem Identified.known_of_buried {controller : Controller} (identified : Identified controller)
    (buried : id ∈ controller.tombstones.keys) : id ∈ controller.known :=
  List.mem_append_right _ (identified.buried id buried)

theorem mem_custody_of_known {controller : Controller} (known : id ∈ controller.known) :
    id ∈ controller.custody :=
  mem_custody_of_isKnown (isKnown_iff.mpr known)

theorem mem_custody_of_held {controller : Controller} {place : Place}
    (member : id ∈ controller.held place) : id ∈ controller.custody := by
  cases place with
  | running =>
      simp only [custody, Multiset.mem_add]
      exact Or.inl (Or.inl (Or.inl member))
  | launching =>
      simp only [custody, Multiset.mem_add]
      exact Or.inl (Or.inl (Or.inr member))
  | releasing =>
      simp only [held] at member
      rcases (Multiset.mem_filterMap _ _).mp member with ⟨work, flying, released⟩
      exact mem_custody_of_releases (mem_releases (Multiset.mem_add.mpr (Or.inl flying)) released)
  | unreleased =>
      simp only [custody, Multiset.mem_add]
      exact Or.inr member

theorem two_le_count_custody {controller : Controller} (known : id ∈ controller.known)
    (released : id ∈ controller.background.releases) : 2 ≤ controller.custody.count id := by
  have first : 1 ≤ controller.known.count id := List.one_le_count_iff.mpr known
  have second := Multiset.one_le_count_iff_mem.mpr released
  rw [Controller.known, List.count_append] at first
  simp only [custody, held, Multiset.count_add, Multiset.coe_count]
  omega

/-- While a launch is in flight, it is remembered that its container ended. -/
theorem Step.tombstones_kept {before after : Controller}
    (step : Step surroundings label before after) (identified : Identified before)
    (buried : id ∈ before.tombstones.keys) (launching : id ∈ after.launching.keys) :
    id ∈ after.tombstones.keys := by
  have gone : Gone id before :=
    ⟨identified.not_running_of_launching (identified.buried id buried), fun _ => buried⟩
  cases step with
  | start world =>
      rw [(startUp_started surroundings before world).tombstones_eq]
      exact buried
  | tick world =>
      exact (gone.step identified (.tick world) List.not_mem_nil).buried launching
  | event event world =>
      cases event with
      | allocated allocations =>
          have same := tombstones_allocated allocations before
          exact same.symm ▸ buried
      | completed completions =>
          exact (gone.step identified (.event (.completed completions) world)
            List.not_mem_nil).buried launching
      | launchFailed replica reason =>
          exact (gone.step identified (.event (.launchFailed replica reason) world)
            List.not_mem_nil).buried launching
      | trouble | resourcesUpdated | shutdownRequested => exact buried
  | outcome ready world =>
      exact (gone.step identified (.outcome ready world) List.not_mem_nil).buried launching
  | progress flying world => exact buried

namespace Hosted

section Step

variable {given : List String} {before after : Controller × World}
  (hosted : Hosted before.1 (cluster before.2)) (identified : Identified before.1)
  (step : Step surroundings label before.1 after.1) (moved : Moved cluster label given before after)
include hosted identified step moved

/-- A step keeps the count of a placed container, up to its grants. -/
theorem count_of_placed (placed : id ∈ (cluster before.2).placements.keys) :
    after.1.custody.count id = before.1.custody.count id + label.grants.count id := by
  have counted := hosted.once id placed
  rw [moved.shift.queued id (hosted.sound.placed id placed)] at counted
  refine step.count_custody identified (fun buried => hosted.buried id buried placed) ?_ ?_
    (by omega)
  · intro reported
    exact (hosted.sound.ended id (moved.shift.ended id reported)).2 placed
  · intro shown
    rcases step.released shown with ⟨work, result, ready, frees⟩
    exact hosted.released work result ready id frees placed

/-- The controller has no container that was not named yet. -/
theorem count_of_unnamed (unnamed : ¬(cluster before.2).Named id) :
    after.1.custody.count id = 0 := by
  -- Nothing that a step takes in concerns a container without a name.
  have absent : id ∉ before.1.custody := fun member => unnamed (hosted.named id member)
  have ungranted : label.grants.count id = 0 :=
    List.count_eq_zero_of_not_mem fun granted => unnamed (moved.shift.granted id granted)
  have nowhere := Multiset.count_eq_zero.mpr absent
  rw [step.count_custody identified, nowhere, ungranted]
  · exact fun buried => absent (mem_custody_of_known (identified.known_of_buried buried))
  · exact fun reported => unnamed (hosted.sound.ended id (moved.shift.ended id reported)).1
  · intro shown
    rcases step.released shown with ⟨work, result, ready, frees⟩
    exact absent (mem_custody_of_releases
      (mem_releases (Background.outstanding_of_ready ready) (released_of_outcome frees)))
  · omega

omit identified step in
/-- A known container is not given back, so that it is accounted for unless its end is reported. -/
theorem accounts_of_known (known : id ∈ before.1.known) (accounts : (cluster before.2).Accounts id)
    (alive : id ∉ label.completions) : (cluster after.2).Accounts id := by
  rcases moved.shift.kept id accounts with still | reported | returned
  · exact still
  · exact absurd reported alive
  · -- A container that is known and given back at once would be counted twice.
    rcases moved.given id returned with ⟨placed, released⟩
    have once := hosted.once id placed
    have twice := two_le_count_custody known released
    omega

theorem step_running (id : String) (runs : id ∈ after.1.running.map Replica.id) :
    (cluster after.2).Accounts id := by
  -- Whoever has its end reported by the step does not run after it.
  have alive : id ∉ label.completions := fun reported =>
    (step.gone identified reported).absent runs
  rcases step.running_subset identified id runs with ran | joins
  · exact hosted.accounts_of_known moved (List.mem_append_left _ ran) (hosted.running id ran) alive
  · cases joins with
    | @adopted registration left =>
        rw [moved.fresh registration rfl] at left
        exact absurd left List.not_mem_nil
    | @launched replica _ ready named unburied =>
        subst named
        have launching := identified.launching_of_ready ready
        exact hosted.accounts_of_known moved (List.mem_append_right _ launching)
          ((hosted.launched replica ready).resolve_right unburied) alive

theorem step_launched (replica : Replica)
    (ready : (Work.launch replica, .ok ()) ∈ after.1.background.finished) :
    (cluster after.2).Accounts replica.id ∨ replica.id ∈ after.1.tombstones.keys := by
  have launches := (identified.step step).launching_of_ready ready
  rcases moved.results _ _ ready with old | borne
  · have launching := identified.launching_of_ready old
    rcases hosted.launched replica old with accounts | buried
    · -- The end may be reported while the result lies ready, and is remembered then.
      by_cases reported : replica.id ∈ label.completions
      · exact Or.inr ((step.gone identified reported).buried launches)
      · exact Or.inl (hosted.accounts_of_known moved (List.mem_append_right _ launching) accounts
          reported)
    · exact Or.inr (step.tombstones_kept identified buried launches)
  · exact Or.inl (borne.launched replica rfl rfl)

theorem step_buried (id : String) (buried : id ∈ after.1.tombstones.keys) :
    id ∉ (cluster after.2).placements.keys := by
  rcases step.buried id buried with old | reported
  · have named := hosted.named id (mem_custody_of_known (identified.known_of_buried old))
    exact moved.shift.not_placed named (hosted.buried id old)
  · have ended := hosted.sound.ended id (moved.shift.ended id reported)
    exact moved.shift.not_placed ended.1 ended.2

omit identified step in
theorem step_released (work : Work) (result : Except ClusterError Unit)
    (ready : (work, result) ∈ after.1.background.finished) (id : String)
    (frees : id ∈ (Label.outcome work result).releases) :
    id ∉ (cluster after.2).placements.keys := by
  rcases moved.results work result ready with old | borne
  · have released := mem_releases (Background.outstanding_of_ready old) (released_of_outcome frees)
    exact moved.shift.not_placed (hosted.named id (mem_custody_of_releases released))
      (hosted.released work result old id frees)
  · exact borne.released id frees

theorem step_once (id : String) (placed : id ∈ (cluster after.2).placements.keys) :
    after.1.custody.count id + (cluster after.2).queuedGrants.count id = 1 := by
  rcases moved.shift.placed id placed with old | ⟨unnamed, queued⟩
  · have counted := hosted.once id old
    rw [moved.shift.queued id (hosted.sound.placed id old)] at counted
    rw [hosted.count_of_placed identified step moved old]
    omega
  · rw [hosted.count_of_unnamed identified step moved unnamed, queued]

/-- A step of the controller keeps the agreement with its cluster. -/
theorem stepped : Hosted after.1 (cluster after.2) where
  sound := moved.shift.sound
  named := by
    intro id member
    by_contra unnamed
    have nowhere := hosted.count_of_unnamed identified step moved fun named =>
      unnamed (moved.shift.named named)
    exact Multiset.count_eq_zero.mp nowhere member
  once := hosted.step_once identified step moved
  running := hosted.step_running identified step moved
  launched := hosted.step_launched identified step moved
  released := hosted.step_released moved
  buried := hosted.step_buried identified step moved
  unstarted := moved.unstarted
  intact := moved.intact

end Step

/-- What the cluster does by itself keeps the agreement. -/
theorem quiet {controller : Controller} {before after : LocalCluster}
    (hosted : Hosted controller before) (identified : Identified controller)
    (quiet : LocalCluster.Quiet before after) : Hosted controller after where
  sound := quiet.sound
  named id member := quiet.named (hosted.named id member)
  once := by
    intro id placed
    rcases quiet.placed id placed with old | ⟨unnamed, queued⟩
    · have counted := hosted.once id old
      rwa [quiet.queued id (hosted.sound.placed id old), List.count_nil, zero_add] at counted
    · have absent : id ∉ controller.custody := fun member => unnamed (hosted.named id member)
      rw [Multiset.count_eq_zero.mpr absent, queued]
  running id runs := quiet.accounts (hosted.running id runs)
  launched replica ready := (hosted.launched replica ready).imp_left quiet.accounts
  released := by
    intro work result ready id frees
    have released := mem_releases (Background.outstanding_of_ready ready)
      (released_of_outcome frees)
    exact quiet.not_placed (hosted.named id (mem_custody_of_releases released))
      (hosted.released work result ready id frees)
  buried := by
    intro id buried
    have named := hosted.named id (mem_custody_of_known (identified.known_of_buried buried))
    exact quiet.not_placed named (hosted.buried id buried)
  unstarted := hosted.unstarted
  intact := hosted.intact

theorem initial (settings : ControllerSettings) (nodes : List NodeConfig) :
    Hosted (ofSettings settings) { nodes := nodes } where
  sound := .ofNodes nodes
  named _ member := absurd member (Multiset.notMem_zero _)
  once _ placed := absurd placed List.not_mem_nil
  running _ runs := absurd runs List.not_mem_nil
  launched _ ready := absurd ready List.not_mem_nil
  released _ _ ready := absurd ready List.not_mem_nil
  buried _ buried := absurd buried List.not_mem_nil
  unstarted _ flying := absurd flying List.not_mem_nil
  intact := rfl

end Hosted

/-- In every state of a controller on a local cluster, the two agree on every container. -/
theorem Driven.hosted (runOn : surroundings.RunOn cluster) {labels : List Label}
    {state : Controller × World} (driven : Driven surroundings cluster labels state) :
    Hosted state.1 (cluster state.2) := by
  induction driven with
  | @initial settings world nodes fresh =>
      rw [fresh]
      exact .initial settings nodes
  | advance driven advance ih =>
      rcases advance.moved runOn ih with ⟨given, moved⟩
      exact ih.stepped driven.run.identified advance.step moved
  | pass driven reaped ih => exact ih.quiet driven.run.identified (reaped.quiet ih.sound)

/-! ## Where placed containers are -/

/-- Where a placed container can be: its grant is queued, or the controller holds it in a place. -/
inductive Spot where
  | queued
  | held (place : Place)
  deriving DecidableEq

/-- The containers in a spot, as often as they are there. -/
def heldIn (controller : Controller) (cluster : LocalCluster) : Spot → Multiset String
  | .queued => cluster.queuedGrants
  | .held place => controller.held place

theorem Hosted.spot {controller : Controller} {cluster : LocalCluster}
    (hosted : Hosted controller cluster) (placed : id ∈ cluster.placements.keys) :
    ∃ spot, (controller.heldIn cluster spot).count id = 1 ∧
      ∀ other, id ∈ controller.heldIn cluster other → other = spot := by
  have once := hosted.once id placed
  by_cases queued : id ∈ cluster.queuedGrants
  · have one := List.one_le_count_iff.mpr queued
    have nowhere : id ∉ controller.custody := Multiset.count_eq_zero.mp (by omega)
    refine ⟨.queued, ?_, ?_⟩
    · rw [heldIn, Multiset.coe_count]
      omega
    · rintro (_ | place) member
      · rfl
      · exact absurd (mem_custody_of_held member) nowhere
  · rw [List.count_eq_zero_of_not_mem queued] at once
    rcases place_of_count_custody hosted.intact once with ⟨place, one, only⟩
    refine ⟨.held place, one, ?_⟩
    rintro (_ | other) member
    · exact absurd member queued
    · rw [only other member]

/-- No node is stranded. In every state of a controller on a local cluster, whatever happened in
whatever order, each container that has a place on a node is in exactly one spot, and there once:
its grant is still queued, its launch is in flight, it runs, its release is in flight, or its
release failed and is tried again. And each running container has a place on a node, or its
completion is still queued. -/
theorem no_node_stranded (runOn : surroundings.RunOn cluster) {labels : List Label}
    {state : Controller × World} (driven : Driven surroundings cluster labels state) :
    (∀ id ∈ (cluster state.2).placements.keys,
      ∃ spot, (state.1.heldIn (cluster state.2) spot).count id = 1 ∧
        ∀ other, id ∈ state.1.heldIn (cluster state.2) other → other = spot) ∧
      ∀ id ∈ state.1.running.map Replica.id,
        id ∈ (cluster state.2).placements.keys ∨
          ∃ completions, .completed completions ∈ (cluster state.2).events ∧
            id ∈ completions.map Completion.replica := by
  have hosted := driven.hosted runOn
  refine ⟨fun id placed => hosted.spot placed, ?_⟩
  intro id runs
  exact (hosted.running id runs).imp_right hosted.sound.completed_of_ended

/-- A local cluster by itself: every log can be created, and no replica is ready or has metrics. -/
def bareCluster : Surroundings LocalCluster where
  clock _ := ⟨0⟩
  epoch _ := 0
  register := LocalCluster.register
  unregister := LocalCluster.unregister
  request request cluster := cluster.request request
  release id cluster := cluster.release id
  launch replica _ cluster := cluster.launch replica.id (.ok ())
  stop replica cluster := cluster.stop replica.id
  ready _ cluster := (some false, cluster)
  metrics _ cluster := (none, cluster)
  receive := LocalCluster.next?
  isCancelled _ := false
  isEnding _ := false
  rest _ _ cluster := cluster
  await _ _ cluster := cluster

theorem bareCluster_runOn : bareCluster.RunOn fun cluster => cluster where
  register _ := ⟨rfl, .stay _⟩
  request _ _ := ⟨rfl, .stay _⟩
  release _ _ := ⟨rfl, .stay _⟩
  launch _ _ _ := ⟨.ok (), rfl, .stay _⟩
  stop _ _ := ⟨rfl, .stay _⟩
  receive _ := ⟨rfl, .stay _⟩
  ready _ _ := .stay _
  metrics _ _ := .stay _

/-- Settings that ask for two replicas. -/
def pairSettings : ControllerSettings :=
  { plainSettings with policy := { plainSettings.policy with minimum := 2 } }

/-- The first container of a local cluster. -/
def firstContainer : Allocation := ⟨"container_000001", "localhost", "127.0.0.1", {}⟩

/-- The controller and a cluster of two nodes after the start. Both replicas are requested. -/
def pairStarted : Controller × LocalCluster :=
  ((ofSettings pairSettings).startUp bareCluster { nodes := [{}, {}] }).2

/-- The first grant was delivered. -/
def pairGranted : Controller × LocalCluster :=
  pairStarted.1.handleEvent bareCluster (.allocated [firstContainer]) pairStarted.2.next?.2

theorem driven_pairGranted :
    ∃ labels, Driven bareCluster (fun cluster => cluster) labels pairGranted := by
  have initial := @Driven.initial _ bareCluster (fun cluster => cluster) pairSettings
    { nodes := [{}, {}] } _ rfl
  have received : bareCluster.receive pairStarted.2 =
      (some (.allocated [firstContainer]), pairStarted.2.next?.2) :=
    Prod.ext (by decide +kernel) rfl
  exact ⟨_, (initial.advance (.start _ _)).advance (.deliver pairStarted.1 received)⟩

/-- The process of the first container exits before the result of its launch is taken, while the
grant of the second one is queued. -/
theorem places_after_early_exit :
    bareCluster.RunOn (fun cluster => cluster) ∧ ∃ labels state,
      Driven bareCluster (fun cluster => cluster) labels state ∧
        state.2.placements.keys = ["container_000002"] ∧
        state.1.running.map Replica.id = ["container_000001"] ∧
        (∃ spot, (state.1.heldIn state.2 spot).count "container_000002" = 1 ∧
          ∀ other, "container_000002" ∈ state.1.heldIn state.2 other → other = spot) ∧
        ∃ completions, .completed completions ∈ state.2.events ∧
          "container_000001" ∈ completions.map Completion.replica := by
  rcases driven_pairGranted with ⟨labels, granted⟩
  have flying : pairGranted.1.background.jobs =
      [] ++ ⟨.launch firstContainer.toReplica, some 0, .unstarted⟩ :: [] := by decide +kernel
  have launched := granted.advance (.progress flying pairGranted.2)
  have exited := launched.pass (@LocalCluster.Reaped.reap _ _ (.stay _)
    ⟨0, "container_000001", false⟩ (by decide +kernel) (.exited 1))
  have taken := exited.advance (@Advance.take _ bareCluster _ [] []
    (.launch firstContainer.toReplica) (.ok ()) (by decide +kernel) _)
  rcases no_node_stranded bareCluster_runOn taken with ⟨places, ends⟩
  refine ⟨bareCluster_runOn, _, _, taken, by decide +kernel, by decide +kernel,
    places _ (by decide +kernel), (ends _ (by decide +kernel)).resolve_left (by decide +kernel)⟩

end Controller

end Fleet
