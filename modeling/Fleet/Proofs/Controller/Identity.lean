import Fleet.Proofs.Controller.Rounds
import Fleet.Proofs.Controller.Transition

/-!
# Who is launched

The launches that have not come to a result are exactly those of the launching containers, one for
each. No container is running twice, or running and launching at once, and a completion is
remembered for launching containers only.
-/

namespace Fleet

/-- The container that a call launches. -/
def Work.launched? : Work → Option String
  | launch replica => some replica.id
  | stop _ | release _ => none

/-- The containers whose launch was started and whose result was not taken. -/
def Background.launches (background : Background) : Multiset String :=
  background.outstanding.filterMap Work.launched?

namespace Controller

variable {World : Type} {surroundings : Surroundings World} {before after : Controller}

/-- Who is running and who is launching is known without doubt. -/
structure Identified (controller : Controller) : Prop where
  launches : controller.background.launches = controller.launching.keys
  distinct : controller.known.Nodup
  buried : ∀ id ∈ controller.tombstones.keys, id ∈ controller.launching.keys

namespace Identified

theorem ofSettings (settings : ControllerSettings) : Identified (.ofSettings settings) :=
  ⟨rfl, .nil, by simp [Controller.ofSettings]⟩

theorem distinct_running (identified : Identified before) :
    (before.running.map Replica.id).Nodup :=
  (List.nodup_append'.mp identified.distinct).1

theorem not_running_of_launching (identified : Identified before) {id : String}
    (launching : id ∈ before.launching.keys) : id ∉ before.running.map Replica.id := fun running =>
  (List.nodup_append'.mp identified.distinct).2.2 running launching

/-- What leaves the containers and the launches as they are leaves them identified. -/
theorem of_sameRoster (identified : Identified before) (same : SameRoster before after)
    (launches : after.background.launches = before.background.launches) : Identified after := by
  refine ⟨?_, ?_, ?_⟩
  · rw [launches, same.launching, identified.launches]
  · rw [same.known_eq]
    exact identified.distinct
  · rw [same.tombstones, same.launching]
    exact identified.buried

theorem publish (identified : Identified before) : Identified before.publish :=
  identified.of_sameRoster ⟨rfl, rfl, rfl⟩ rfl

theorem start (identified : Identified before) (work : Work) (quiet : work.launched? = none) :
    Identified (before.start work) := by
  refine identified.of_sameRoster ⟨rfl, rfl, rfl⟩ ?_
  have launches := (before.background.start_evolves work).filterMap_eq Work.launched?
  rwa [← Multiset.cons_zero, Multiset.filterMap_cons_none _ _ quiet, Multiset.filterMap_zero,
    zero_add] at launches

theorem requested {limit : Nat} (identified : Identified before)
    (requested : Requested limit before after) : Identified after := by
  refine identified.of_sameRoster requested.sameRoster ?_
  simp only [Background.launches]
  rw [requested.outstanding]

theorem adopt (identified : Identified before) {replica : Replica}
    (unknown : before.isKnown replica.id = false) (now : Nat) :
    Identified (before.adopt replica now) := by
  refine ⟨identified.launches, ?_, identified.buried⟩
  rw [(before.known_adopt_perm replica now).nodup_iff, List.nodup_cons]
  exact ⟨isKnown_eq_false_iff.mp unknown, identified.distinct⟩

theorem adoptPrevious (identified : Identified before) (previous : List Allocation)
    (now : Nat) : Identified (before.adoptPrevious previous now) :=
  adoptPrevious_keeps Identified previous now
    (fun _ _ _ unknown reached => reached.adopt unknown now) identified

theorem granted {allocation : Allocation} (identified : Identified before)
    (granted : Granted before allocation after) : Identified after := by
  cases granted with
  | ignored => exact identified
  | released =>
      apply Identified.start _ _ rfl
      exact identified.of_sameRoster ⟨rfl, rfl, rfl⟩ rfl
  | accepted unknown =>
      have absent := not_launching_of_unknown unknown
      have keys := SortedMap.keys_insert_perm absent allocation.toReplica
      refine ⟨?_, ?_, ?_⟩
      · calc
          _ = {allocation.replica} + before.background.launches :=
            (before.background.start_evolves (.launch allocation.toReplica)).filterMap_eq
              Work.launched?
          _ = _ := by
            rw [identified.launches, Multiset.singleton_add, Multiset.cons_coe]
            exact (Multiset.coe_eq_coe.mpr keys).symm
      · refine (known_insert_perm absent allocation.toReplica).nodup_iff.mpr ?_
        exact List.nodup_cons.mpr ⟨isKnown_eq_false_iff.mp unknown, identified.distinct⟩
      · intro id buried
        exact keys.mem_iff.mpr (List.mem_cons_of_mem _ (identified.buried id buried))

theorem allocated (identified : Identified before) (allocations : List Allocation) :
    Identified (allocations.foldl onAllocated before) :=
  allocated_keeps Identified allocations (fun _ _ _ _ granted reached => reached.granted granted)
    identified

theorem dropReplica (identified : Identified before) (id : String) :
    Identified (before.dropReplica id) := by
  refine ⟨identified.launches, ?_, identified.buried⟩
  exact identified.distinct.sublist (before.known_dropReplica_sublist id)

theorem ended {completion : Completion} {world : World} (identified : Identified before)
    (ended : Ended surroundings before completion world after) : Identified after := by
  cases ended with
  | buried launching =>
      refine ⟨identified.launches, identified.distinct, ?_⟩
      intro id buried
      rw [← SortedMap.contains_iff_mem_keys, SortedMap.contains_insert, Bool.or_eq_true,
        decide_eq_true_eq, SortedMap.contains_iff_mem_keys] at buried
      rcases buried with rfl | buried
      · exact SortedMap.contains_iff_mem_keys.mp launching
      · exact identified.buried id buried
  | ignored => exact identified
  | dropped => exact identified.dropReplica _
  | replaced =>
      have dropped := identified.dropReplica completion.replica
      have alerted : Identified ((before.dropReplica completion.replica).alert
          (.containerFailure completion.replica completion.reason (surroundings.epoch world))) :=
        dropped.of_sameRoster ⟨rfl, rfl, rfl⟩ rfl
      exact alerted.requested (requestMissing_requested ..)

theorem completed (identified : Identified before) (completions : List Completion)
    (world : World) : Identified (onCompletions surroundings completions before world).1 :=
  completions_keep surroundings Identified completions
    (fun _ _ _ _ _ ended reached => reached.ended ended) identified world

variable {earlier later : List (Work × Except ClusterError Unit)}
  {result : Except ClusterError Unit}

/-- The result of a launch is that of a launching container, whose launch is then over. -/
theorem take_launch (identified : Identified before) {replica : Replica}
    (ready : before.background.finished = earlier ++ (.launch replica, result) :: later) :
    replica.id ∈ before.launching.keys ∧
      (before.withFinished (earlier ++ later)).background.launches =
        (before.launching.erase replica.id).keys := by
  have launches : (before.launching.keys : Multiset String) =
      replica.id ::ₘ (before.withFinished (earlier ++ later)).background.launches := by
    rw [← identified.launches]
    simp only [Background.launches]
    rw [outstanding_withFinished ready]
    exact Multiset.filterMap_cons_some _ _ _ rfl
  refine ⟨?_, ?_⟩
  · rw [← Multiset.mem_coe, launches]
    exact Multiset.mem_cons_self _ _
  · rw [SortedMap.keys_erase, ← Multiset.coe_erase, launches, Multiset.erase_cons_head]

theorem take_other (identified : Identified before) {work : Work} (quiet : work.launched? = none)
    (ready : before.background.finished = earlier ++ (work, result) :: later) :
    Identified (before.withFinished (earlier ++ later)) := by
  refine identified.of_sameRoster ⟨rfl, rfl, rfl⟩ ?_
  simp only [Background.launches]
  rw [outstanding_withFinished ready, Multiset.filterMap_cons_none _ _ quiet]

/-- After a launch its container is launching no more. It may be running then, and that only. -/
theorem landed {replica : Replica} {now : Nat} (identified : Identified before)
    (ready : before.background.finished = earlier ++ (.launch replica, result) :: later)
    (landed : Landed (before.withFinished (earlier ++ later)) replica now result after) :
    Identified after := by
  rcases identified.take_launch ready with ⟨launching, launches⟩
  have keys : (before.launching.erase replica.id).keys = before.launching.keys.erase replica.id :=
    before.launching.keys_erase replica.id
  have fewer := identified.distinct.sublist (before.known_erase_sublist replica.id)
  have others : ∀ id ∈ before.tombstones.keys, id ≠ replica.id →
      id ∈ (before.launching.erase replica.id).keys := by
    intro id buried different
    rw [keys]
    exact (List.mem_erase_of_ne different).mpr (identified.buried id buried)
  cases landed with
  | discarded =>
      refine ⟨launches, fewer, ?_⟩
      intro id buried
      have remaining : id ∈ (before.tombstones.erase replica.id).keys := buried
      rw [SortedMap.keys_erase, before.tombstones.nodup_keys.mem_erase_iff] at remaining
      exact others id remaining.2 remaining.1
  | adopted alive =>
      refine ⟨launches, ?_, ?_⟩
      · exact ((known_adopt_perm ..).trans (known_erase_perm launching)).nodup_iff.mpr
          identified.distinct
      · intro id buried
        refine others id buried ?_
        rintro rfl
        exact SortedMap.contains_eq_false_iff.mp alive buried
  | failed alive failure =>
      refine Identified.publish (Identified.start ?_ (.release replica.id) rfl)
      refine ⟨launches, fewer, ?_⟩
      intro id buried
      refine others id buried ?_
      rintro rfl
      exact SortedMap.contains_eq_false_iff.mp alive buried

theorem finished {work : Work} {now : Nat} (identified : Identified before)
    (ready : before.background.finished = earlier ++ (work, result) :: later)
    (finished : Finished (before.withFinished (earlier ++ later)) now work result after) :
    Identified after := by
  cases finished with
  | launched landed => exact identified.landed ready landed
  | stopped replica _ ids =>
      exact (identified.take_other rfl ready).of_sameRoster ⟨ids, rfl, rfl⟩ rfl
  | released => exact (identified.take_other rfl ready).of_sameRoster ⟨rfl, rfl, rfl⟩ rfl

theorem event (identified : Identified before) (event : ClusterEvent) (world : World) :
    Identified (before.handleEvent surroundings event world).1 := by
  apply Identified.publish
  cases event with
  | allocated allocations => exact identified.allocated allocations
  | completed completions => exact identified.completed completions world
  | launchFailed replica reason =>
      exact (identified.ended (onCompleted_ended ..)).start (.release replica) rfl
  | trouble | resourcesUpdated | shutdownRequested =>
      exact identified.of_sameRoster ⟨rfl, rfl, rfl⟩ rfl

theorem ticked (identified : Identified before) (ticked : Ticked before after) :
    Identified after := by
  refine identified.of_sameRoster ticked.toSameRoster ?_
  rcases ticked.work with ⟨victim, outstanding, -⟩
  simp only [Background.launches]
  rw [outstanding]
  simp [Work.launched?, List.filterMap_map, Function.comp_def]

theorem started {registration : Except ClusterError Registration}
    {result : Except ClusterError Unit} (identified : Identified before)
    (started : Started surroundings before registration result after) : Identified after := by
  cases started with
  | refused evolved =>
      refine identified.of_sameRoster ⟨rfl, rfl, rfl⟩ ?_
      exact (evolved.filterMap_eq Work.launched?).trans (zero_add _)
  | registered evolved registration now target world =>
      refine Identified.publish (Identified.requested ?_ (requestMissing_requested ..))
      have registered : Identified
          { before with background := _, available := registration.available } :=
        identified.of_sameRoster ⟨rfl, rfl, rfl⟩
          ((evolved.filterMap_eq Work.launched?).trans (zero_add _))
      exact (registered.adoptPrevious registration.previous now).of_sameRoster ⟨rfl, rfl, rfl⟩ rfl

theorem step {label : Label} (identified : Identified before)
    (step : Step surroundings label before after) : Identified after := by
  cases step with
  | start world => exact identified.started (startUp_started ..)
  | tick world => exact identified.ticked (tick_ticked ..)
  | event event world => exact identified.event event world
  | outcome ready world => exact identified.finished ready (onFinished_finished ..)
  | progress flying world =>
      refine identified.of_sameRoster ⟨rfl, rfl, rfl⟩ ?_
      exact ((progress_evolves surroundings flying world).filterMap_eq Work.launched?).trans
        (zero_add _)

end Identified

/-- In every run it is known who is running and who is launching. -/
theorem Run.identified {labels : List Label} {controller : Controller}
    (run : Run surroundings labels controller) : Identified controller := by
  induction run with
  | initial settings => exact .ofSettings settings
  | step _ step ih => exact ih.step step

/-- The identity invariant. In every run in which no call is lost, no container is running twice or
both running and launching, completions are remembered for launching containers only, and of each
launching container exactly one launch is in flight, and no launch of any other one. -/
theorem roster_unambiguous {labels : List Label} {controller : Controller}
    (run : Run surroundings labels controller) (intact : controller.background.lost = []) :
    (controller.running.map Replica.id).Nodup ∧
      (controller.running.map Replica.id).Disjoint controller.launching.keys ∧
      controller.tombstones.keys ⊆ controller.launching.keys ∧
      ∀ id, (controller.background.tasks.filterMap Work.launched?).count id =
        if id ∈ controller.launching.keys then 1 else 0 := by
  have identified := run.identified
  have distinct := List.nodup_append'.mp identified.distinct
  have launches : controller.background.tasks.filterMap Work.launched? =
      controller.launching.keys := by
    rw [← identified.launches, Background.launches, Background.outstanding_eq_tasks intact]
  refine ⟨distinct.1, distinct.2.2, identified.buried, ?_⟩
  intro id
  rw [launches, Multiset.coe_count]
  split
  · next launching => exact List.count_eq_one_of_mem controller.launching.nodup_keys launching
  · next absent => exact List.count_eq_zero_of_not_mem absent

/-- Of two containers that are granted for a target of one, the first one twice, the first one is
launched. Its launch stays in flight when its completion comes early. -/
theorem buried_launch_in_flight :
    ∃ controller,
      Run (standstill [])
          [.start (.ok ⟨[], {}⟩),
            .event (.allocated
              [bareAllocation "first", bareAllocation "first", bareAllocation "second"]),
            .event (.completed [⟨"first", .failed, none, ""⟩])] controller ∧
        controller.background.lost = [] ∧
        (controller.running.map Replica.id).Nodup ∧
        (controller.running.map Replica.id).Disjoint controller.launching.keys ∧
        controller.tombstones.keys = ["first"] ∧
        controller.tombstones.keys ⊆ controller.launching.keys ∧
        (controller.background.tasks.filterMap Work.launched?).count "first" = 1 := by
  have initial := @Run.initial Unit (standstill []) plainSettings
  have run := ((initial.step (.start ())).step (.event (.allocated
    [bareAllocation "first", bareAllocation "first", bareAllocation "second"]) ())).step
    (.event (.completed [⟨"first", .failed, none, ""⟩]) ())
  rcases roster_unambiguous run rfl with ⟨distinct, disjoint, buried, inFlight⟩
  exact ⟨_, run, rfl, distinct, disjoint, by decide +kernel, buried,
    (inFlight "first").trans (by decide +kernel)⟩

/-! ## Who is known was granted -/

theorem Granted.known_subset {allocation : Allocation}
    (granted : Granted before allocation after) :
    ∀ id ∈ after.known, id ∈ before.known ∨ id = allocation.replica := by
  intro id member
  cases granted with
  | ignored => exact Or.inl member
  | released => exact Or.inl member
  | accepted unknown =>
      have inserted := known_insert_perm (not_launching_of_unknown unknown) allocation.toReplica
      exact (List.mem_cons.mp (inserted.mem_iff.mp member)).symm

theorem known_allocated (allocations : List Allocation) (controller : Controller) :
    ∀ id ∈ (allocations.foldl onAllocated controller).known,
      id ∈ controller.known ∨ id ∈ allocations.map Allocation.replica := by
  apply allocated_keeps fun reached => ∀ id ∈ reached.known,
    id ∈ controller.known ∨ id ∈ allocations.map Allocation.replica
  · intro allocation member reached after granted held id known
    rcases granted.known_subset id known with old | rfl
    · exact held id old
    · exact Or.inr (List.mem_map_of_mem member)
  · exact fun id known => Or.inl known

theorem known_adoptPrevious (previous : List Allocation) (now : Nat) (controller : Controller) :
    ∀ id ∈ (controller.adoptPrevious previous now).known,
      id ∈ controller.known ∨ id ∈ previous.map Allocation.replica := by
  apply adoptPrevious_keeps fun reached => ∀ id ∈ reached.known,
    id ∈ controller.known ∨ id ∈ previous.map Allocation.replica
  · intro allocation member reached _ held id known
    have adopted := reached.known_adopt_perm allocation.toReplica now
    rcases List.mem_cons.mp (adopted.mem_iff.mp known) with rfl | old
    · exact Or.inr (List.mem_map_of_mem member)
    · exact held id old
  · exact fun id known => Or.inl known

theorem Started.known_subset {registration : Except ClusterError Registration}
    {answer : Except ClusterError Unit}
    (started : Started surroundings before registration answer after) :
    ∀ id ∈ after.known, id ∈ before.known ∨ id ∈ (Label.start registration).grants := by
  intro id member
  cases started with
  | refused => exact Or.inl member
  | @registered background evolved registration now target world =>
      rw [known_publish, (requestMissing_requested ..).sameRoster.known_eq] at member
      exact known_adoptPrevious registration.previous now
        { before with background := background, available := registration.available } id member

theorem Ended.known_subset {completion : Completion} {world : World}
    (ended : Ended surroundings before completion world after) :
    ∀ id ∈ after.known, id ∈ before.known := by
  intro id member
  cases ended with
  | buried => exact member
  | ignored => exact member
  | dropped => exact (before.known_dropReplica_sublist _).subset member
  | replaced =>
      rw [(requestMissing_requested ..).sameRoster.known_eq] at member
      exact (before.known_dropReplica_sublist _).subset member

theorem known_onCompletions (completions : List Completion) (controller : Controller)
    (world : World) :
    ∀ id ∈ (onCompletions surroundings completions controller world).1.known,
      id ∈ controller.known := by
  apply completions_keep surroundings fun reached => ∀ id ∈ reached.known, id ∈ controller.known
  · intro completion _ reached world after ended held id known
    exact held id (ended.known_subset id known)
  · exact fun id known => known

theorem Landed.known_subset {replica : Replica} {now : Nat} {result : Except ClusterError Unit}
    (landed : Landed before replica now result after)
    (launching : replica.id ∈ before.launching.keys) :
    ∀ id ∈ after.known, id ∈ before.known := by
  intro id member
  cases landed with
  | discarded => exact (before.known_erase_sublist replica.id).subset member
  | adopted =>
      exact ((known_adopt_perm ..).trans (known_erase_perm launching)).mem_iff.mp member
  | failed => exact (before.known_erase_sublist replica.id).subset member

theorem Finished.known_subset {work : Work} {now : Nat} {result : Except ClusterError Unit}
    (finished : Finished before now work result after)
    (launching : ∀ replica, work = .launch replica → replica.id ∈ before.launching.keys) :
    ∀ id ∈ after.known, id ∈ before.known := by
  cases finished with
  | launched landed => exact landed.known_subset (launching _ rfl)
  | stopped replica _ ids =>
      intro id member
      rwa [known, ids] at member
  | released => exact fun id member => member

theorem Step.known_subset {label : Label} (step : Step surroundings label before after)
    (identified : Identified before) :
    ∀ id ∈ after.known, id ∈ before.known ∨ id ∈ label.grants := by
  intro id member
  cases step with
  | start world => exact (startUp_started surroundings before world).known_subset id member
  | tick world =>
      rw [(tick_ticked surroundings before world).toSameRoster.known_eq] at member
      exact Or.inl member
  | event event world =>
      cases event with
      | allocated allocations => exact known_allocated allocations before id member
      | completed completions =>
          exact Or.inl (known_onCompletions completions before world id member)
      | launchFailed replica reason =>
          exact Or.inl ((onCompleted_ended surroundings before (failedLaunch replica reason)
            world).known_subset id member)
      | trouble | resourcesUpdated | shutdownRequested => exact Or.inl member
  | @outcome _ earlier later work result ready world =>
      have finished := onFinished_finished (before.withFinished (earlier ++ later)) work result
        (surroundings.epoch world)
      refine Or.inl (finished.known_subset ?_ id member)
      rintro replica rfl
      exact (identified.take_launch ready).1
  | progress flying world => exact Or.inl member

/-- Whoever is running or being launched was granted. -/
theorem Run.known_granted {labels : List Label} {controller : Controller}
    (run : Run surroundings labels controller) : ∀ id ∈ controller.known, id ∈ grants labels := by
  induction run with
  | initial settings => exact fun id member => absurd member List.not_mem_nil
  | step earlier step ih =>
      intro id member
      rw [grants_append, grants_singleton, List.mem_append]
      exact (step.known_subset earlier.identified id member).imp_left (ih id)

end Controller

end Fleet
