import Fleet.Proofs.Controller.Identity

/-!
# Ended containers

A completion that is handled takes its container out of the running set for good. It may come
before the result of the launch, after it, or while the replica is being stopped. What carries the
argument over a run is that a gone container is not running, and that its completion is remembered
for as long as its launch is in flight; only a new grant could bring it back.
-/

namespace Fleet.Controller

variable {World : Type} {surroundings : Surroundings World} {before after : Controller}
  {id : String}

/-- A container is not running, and cannot come to run by the result of its launch. -/
structure Gone (id : String) (controller : Controller) : Prop where
  absent : id ∉ controller.running.map Replica.id
  buried : id ∈ controller.launching.keys → id ∈ controller.tombstones.keys

namespace Gone

/-! ## Gone containers stay gone -/

theorem of_sameRoster (gone : Gone id before) (same : SameRoster before after) :
    Gone id after := by
  refine ⟨?_, ?_⟩
  · rw [same.ids]
    exact gone.absent
  · rw [same.launching, same.tombstones]
    exact gone.buried

theorem publish (gone : Gone id before) : Gone id before.publish :=
  gone.of_sameRoster ⟨rfl, rfl, rfl⟩

theorem adopt (gone : Gone id before) {replica : Replica} (other : replica.id ≠ id)
    (now : Nat) : Gone id (before.adopt replica now) := by
  refine ⟨?_, gone.buried⟩
  intro running
  simp only [Controller.adopt, List.map_append, List.mem_append, List.map_cons, List.map_nil,
    List.mem_singleton] at running
  rcases running with already | same
  · exact gone.absent already
  · exact other same.symm

theorem adoptPrevious {previous : List Allocation} (gone : Gone id before)
    (others : id ∉ previous.map Allocation.replica) (now : Nat) :
    Gone id (before.adoptPrevious previous now) := by
  apply adoptPrevious_keeps (Gone id) previous now _ gone
  intro allocation member reached _ held
  refine held.adopt ?_ now
  rintro rfl
  exact others (List.mem_map_of_mem member)

theorem granted {allocation : Allocation} (gone : Gone id before)
    (granted : Granted before allocation after) (other : allocation.replica ≠ id) :
    Gone id after := by
  cases granted with
  | ignored => exact gone
  | released => exact gone.of_sameRoster ⟨rfl, rfl, rfl⟩
  | accepted unknown =>
      have keys := SortedMap.keys_insert_perm (not_launching_of_unknown unknown)
        allocation.toReplica
      refine ⟨gone.absent, ?_⟩
      intro launching
      rcases List.mem_cons.mp (keys.mem_iff.mp launching) with same | already
      · exact absurd same.symm other
      · exact gone.buried already

theorem allocated {allocations : List Allocation} (gone : Gone id before)
    (others : id ∉ allocations.map Allocation.replica) :
    Gone id (allocations.foldl onAllocated before) := by
  apply allocated_keeps (Gone id) allocations _ gone
  intro allocation member reached after granted held
  refine held.granted granted ?_
  rintro rfl
  exact others (List.mem_map_of_mem member)

theorem dropReplica (gone : Gone id before) (dropped : String) :
    Gone id (before.dropReplica dropped) := by
  refine ⟨?_, gone.buried⟩
  intro running
  exact gone.absent ((List.eraseP_sublist.map Replica.id).subset running)

theorem ended {completion : Completion} {world : World} (gone : Gone id before)
    (ended : Ended surroundings before completion world after) : Gone id after := by
  cases ended with
  | buried =>
      refine ⟨gone.absent, ?_⟩
      intro launching
      rw [← SortedMap.contains_iff_mem_keys, SortedMap.contains_insert, Bool.or_eq_true,
        SortedMap.contains_iff_mem_keys]
      exact Or.inr (gone.buried launching)
  | ignored => exact gone
  | dropped => exact gone.dropReplica _
  | replaced =>
      have dropped := gone.dropReplica completion.replica
      exact dropped.of_sameRoster (requestMissing_alert_sameRoster ..)

theorem completed (gone : Gone id before) (completions : List Completion) (world : World) :
    Gone id (onCompletions surroundings completions before world).1 :=
  completions_keep surroundings (Gone id) completions
    (fun _ _ _ _ _ ended held => held.ended ended) gone world

/-- The result of a launch brings no gone container back: either the launch is that of another
one, or its completion was remembered and the replica is discarded. -/
theorem landed {replica : Replica} {now : Nat} {result : Except ClusterError Unit}
    (gone : Gone id before) (landed : Landed before replica now result after)
    (launching : replica.id ∈ before.launching.keys) : Gone id after := by
  have others : id ∈ (before.launching.erase replica.id).keys →
      id ≠ replica.id ∧ id ∈ before.tombstones.keys := by
    intro remaining
    rw [SortedMap.keys_erase, before.launching.nodup_keys.mem_erase_iff] at remaining
    exact ⟨remaining.1, gone.buried remaining.2⟩
  have different (alive : before.tombstones.contains replica.id = false) : replica.id ≠ id := by
    rintro rfl
    exact SortedMap.contains_eq_false_iff.mp alive (gone.buried launching)
  cases landed with
  | discarded =>
      refine ⟨gone.absent, ?_⟩
      intro remaining
      rcases others remaining with ⟨other, buried⟩
      change id ∈ (before.tombstones.erase replica.id).keys
      rw [SortedMap.keys_erase]
      exact (List.mem_erase_of_ne other).mpr buried
  | adopted alive =>
      have landed : Gone id { before with launching := before.launching.erase replica.id } :=
        ⟨gone.absent, fun remaining => (others remaining).2⟩
      exact (landed.adopt (different alive) now).of_sameRoster ⟨rfl, rfl, rfl⟩
  | failed => exact ⟨gone.absent, fun remaining => (others remaining).2⟩

theorem finished {work : Work} {now : Nat} {result : Except ClusterError Unit}
    (gone : Gone id before) (finished : Finished before now work result after)
    (launching : ∀ replica, work = .launch replica → replica.id ∈ before.launching.keys) :
    Gone id after := by
  cases finished with
  | launched landed => exact gone.landed landed (launching _ rfl)
  | stopped replica _ ids => exact gone.of_sameRoster ⟨ids, rfl, rfl⟩
  | released => exact gone.of_sameRoster ⟨rfl, rfl, rfl⟩

theorem started {registration : Except ClusterError Registration}
    {answer : Except ClusterError Unit} (gone : Gone id before)
    (started : Started surroundings before registration answer after)
    (others : id ∉ (Label.start registration).grants) : Gone id after := by
  cases started with
  | refused => exact gone.of_sameRoster ⟨rfl, rfl, rfl⟩
  | @registered background evolved registration now target world =>
      have registered : Gone id
          { before with background := background, available := registration.available } :=
        gone.of_sameRoster ⟨rfl, rfl, rfl⟩
      have adopted := registered.adoptPrevious others now
      refine Gone.publish (Gone.of_sameRoster ?_ (requestMissing_requested ..).sameRoster)
      exact adopted.of_sameRoster ⟨rfl, rfl, rfl⟩

theorem step {label : Label} (gone : Gone id before) (identified : Identified before)
    (step : Step surroundings label before after) (others : id ∉ label.grants) :
    Gone id after := by
  cases step with
  | start world => exact gone.started (startUp_started ..) others
  | tick world => exact gone.of_sameRoster (tick_ticked ..).toSameRoster
  | event event world =>
      cases event with
      | allocated allocations =>
          exact (gone.allocated others).of_sameRoster ⟨rfl, rfl, rfl⟩
      | completed completions =>
          exact (gone.completed completions world).of_sameRoster ⟨rfl, rfl, rfl⟩
      | launchFailed replica reason =>
          have ended := gone.ended (onCompleted_ended surroundings before
            (failedLaunch replica reason) world)
          exact ended.of_sameRoster ⟨rfl, rfl, rfl⟩
      | trouble | resourcesUpdated | shutdownRequested =>
          exact gone.of_sameRoster ⟨rfl, rfl, rfl⟩
  | @outcome _ earlier later work result ready world =>
      have waiting : Gone id (before.withFinished (earlier ++ later)) :=
        gone.of_sameRoster ⟨rfl, rfl, rfl⟩
      refine waiting.finished (onFinished_finished ..) ?_
      rintro replica rfl
      exact (identified.take_launch ready).1
  | progress flying world => exact gone.of_sameRoster ⟨rfl, rfl, rfl⟩

end Gone

/-- A gone container stays gone until it is granted again. -/
theorem Course.gone {earlier later : List Label} (course : Course surroundings before later after)
    (run : Run surroundings earlier before) (gone : Gone id before)
    (others : id ∉ grants later) : Gone id after := by
  induction course with
  | stay => exact gone
  | step course step ih =>
      rw [grants_append, grants_singleton, List.mem_append, not_or] at others
      exact (ih others.1).step (run.extend course).identified step others.2

/-! ## Completions make containers gone -/

theorem Identified.gone_dropReplica (identified : Identified before)
    (notLaunching : before.launching.contains id = false) : Gone id (before.dropReplica id) := by
  refine ⟨?_, ?_⟩
  · have distinct := (List.nodup_append'.mp identified.distinct).1
    change id ∉ (before.running.eraseP (·.id = id)).map Replica.id
    rw [map_eraseP_id]
    exact distinct.not_mem_erase
  · intro launching
    exact absurd launching (SortedMap.contains_eq_false_iff.mp notLaunching)

/-- Wherever the container is when its completion comes, it is gone then. -/
theorem Ended.gone {completion : Completion} {world : World}
    (ended : Ended surroundings before completion world after)
    (identified : Identified before) : Gone completion.replica after := by
  cases ended with
  | buried launching =>
      have disjoint := (List.nodup_append'.mp identified.distinct).2.2
      refine ⟨?_, ?_⟩
      · intro running
        exact disjoint running (SortedMap.contains_iff_mem_keys.mp launching)
      · intro _
        rw [← SortedMap.contains_iff_mem_keys, SortedMap.contains_insert]
        simp
  | ignored unknown =>
      have nowhere := isKnown_eq_false_iff.mp unknown
      rw [known, List.mem_append, not_or] at nowhere
      exact ⟨nowhere.1, fun launching => absurd launching nowhere.2⟩
  | dropped notLaunching => exact identified.gone_dropReplica notLaunching
  | replaced notLaunching =>
      have dropped := identified.gone_dropReplica notLaunching
      exact dropped.of_sameRoster (requestMissing_alert_sameRoster ..)

theorem gone_onCompletions {completions : List Completion} {controller : Controller}
    (identified : Identified controller) (reported : id ∈ completions.map Completion.replica)
    (world : World) : Gone id (onCompletions surroundings completions controller world).1 := by
  induction completions generalizing controller world with
  | nil => exact absurd reported List.not_mem_nil
  | cons completion rest ih =>
      have ended := onCompleted_ended surroundings controller completion world
      rcases List.mem_cons.mp reported with rfl | later
      · exact (ended.gone identified).completed rest _
      · exact ih (identified.ended ended) later _

theorem Step.gone {label : Label} (step : Step surroundings label before after)
    (identified : Identified before) (reported : id ∈ label.completions) : Gone id after := by
  cases step with
  | event event world =>
      cases event with
      | completed completions =>
          exact (gone_onCompletions identified reported world).of_sameRoster ⟨rfl, rfl, rfl⟩
      | launchFailed replica reason =>
          obtain rfl := List.mem_singleton.mp reported
          have ended := onCompleted_ended surroundings before (failedLaunch id reason) world
          exact (ended.gone identified).of_sameRoster ⟨rfl, rfl, rfl⟩
      | allocated | trouble | resourcesUpdated | shutdownRequested =>
          exact absurd reported List.not_mem_nil
  | start | tick | outcome | progress => exact absurd reported List.not_mem_nil

/-- Whether a container's end was reported, and no grant of it came after that. -/
def HasEnded (labels : List Label) (id : String) : Prop :=
  ∃ earlier label later,
    labels = earlier ++ label :: later ∧ id ∈ label.completions ∧ id ∉ grants later

theorem Run.gone {labels : List Label} {controller : Controller}
    (run : Run surroundings labels controller) (ended : HasEnded labels id) :
    Gone id controller := by
  obtain ⟨earlier, label, later, rfl, reported, others⟩ := ended
  have joined : earlier ++ label :: later = (earlier ++ [label]) ++ later := by simp
  rw [joined] at run
  rcases run.split with ⟨middle, passed, course⟩
  rcases passed.last with ⟨before, first, step⟩
  have gone := step.gone first.identified reported
  exact course.gone passed gone others

/-- A completion beats the result of the launch. In every run in which no container is granted
twice, a granted container whose end is reported is not running then, nor in any later state,
whatever else comes before the result of its launch, and after it. -/
theorem ended_container_never_runs {earlier later : List Label} {label : Label}
    {controller : Controller} (run : Run surroundings (earlier ++ label :: later) controller)
    (once : (grants (earlier ++ label :: later)).Nodup) (granted : id ∈ grants earlier)
    (reported : id ∈ label.completions) : id ∉ controller.running.map Replica.id := by
  have others : id ∉ grants later := by
    intro again
    rw [grants_append] at once
    have disjoint := (List.nodup_append'.mp once).2.2
    apply disjoint granted
    rw [grants, List.flatMap_cons]
    exact List.mem_append_right _ again
  exact (run.gone ⟨earlier, label, later, rfl, reported, others⟩).absent

/-- The completion comes while the launch is in flight, and the launch succeeds after it. -/
theorem ended_before_launched :
    ∃ controller,
      Run (standstill []) (launchStarts ++ completionComes :: launchSucceeds) controller ∧
        "first" ∉ controller.running.map Replica.id := by
  have buried := run_launchingFirst.step (.event (.completed [⟨"first", .failed, none, ""⟩]) ())
  have launched := buried.step (@Step.progress _ _ _ [] []
    ⟨.launch (bareAllocation "first").toReplica, some 0, .unstarted⟩ rfl ())
  have run := launched.step (@Step.outcome _ _ _ [] []
    (.launch (bareAllocation "first").toReplica) (.ok ()) rfl ())
  refine ⟨_, run, ?_⟩
  exact @ended_container_never_runs Unit _ _ launchStarts launchSucceeds completionComes _ run
    (by decide) (by decide) (by decide)

/-! ## Repeated completions -/

/-- A completion of a gone container finds it in no other place than among the tombstones, where
it is already. -/
theorem Gone.onCompleted_eq {completion : Completion} {controller : Controller}
    (gone : Gone completion.replica controller) (world : World) :
    controller.onCompleted surroundings completion world = (controller, world) := by
  simp only [onCompleted]
  by_cases launching : controller.launching.contains completion.replica
  · have buried := gone.buried (SortedMap.contains_iff_mem_keys.mp launching)
    have marked : controller.tombstones.get? completion.replica = some () := by
      rw [← SortedMap.contains_iff_mem_keys, SortedMap.contains, Option.isSome_iff_exists] at buried
      exact buried.choose_spec
    rw [if_pos launching, SortedMap.insert_of_get? marked]
  · have absent : controller.running.find? (·.id = completion.replica) = none := by
      rw [List.find?_eq_none]
      intro replica running same
      exact gone.absent (of_decide_eq_true same ▸ List.mem_map_of_mem running)
    rw [if_neg launching, absent]

/-- A container whose end was reported earlier, or earlier in a batch of completions, is gone when
the next completion of the batch is handled. -/
theorem Run.gone_amid {labels : List Label} {controller : Controller}
    (run : Run surroundings labels controller) {first : List Completion}
    (ended : HasEnded labels id ∨ id ∈ first.map Completion.replica) (world : World) :
    Gone id (onCompletions surroundings first controller world).1 := by
  rcases ended with earlier | amid
  · exact (run.gone earlier).completed first world
  · exact gone_onCompletions run.identified amid world

/-- Completions are idempotent. Once the end of a container was reported, and until the container is
granted again, a further completion of it changes nothing at all and leaves the world alone,
whatever else it says, whatever came in between, and wherever in a batch it stands. An event has the
same effect without it. -/
theorem repeated_completion_inert {labels : List Label} {controller : Controller}
    (run : Run surroundings labels controller) (completion : Completion) (first : List Completion)
    (ended : HasEnded labels completion.replica ∨
      completion.replica ∈ first.map Completion.replica) (world : World) :
    let (amid, passed) := onCompletions surroundings first controller world
    amid.onCompleted surroundings completion passed = (amid, passed) ∧
      ∀ rest,
        controller.handleEvent surroundings (.completed (first ++ completion :: rest)) world =
          controller.handleEvent surroundings (.completed (first ++ rest)) world := by
  have inert : (onCompletions surroundings first controller world).1.onCompleted surroundings
      completion (onCompletions surroundings first controller world).2 =
        onCompletions surroundings first controller world :=
    (run.gone_amid ended world).onCompleted_eq _
  refine ⟨inert, ?_⟩
  intro rest
  simp only [handleEvent, onEvent, onCompletions_append, onCompletions]
  rw [inert]

/-- The container completes a second time, now with success, while its launch is still in flight. -/
theorem second_completion_inert :
    HasEnded (launchStarts ++ [completionComes]) "first" ∧
      ∃ controller, Run (standstill []) (launchStarts ++ [completionComes]) controller ∧
        controller.handleEvent (standstill []) (.completed [⟨"first", .completed, some 0, ""⟩]) () =
          (controller.publish, ()) := by
  have ended : HasEnded (launchStarts ++ [completionComes]) "first" :=
    ⟨launchStarts, completionComes, [], rfl, by decide, by decide⟩
  have run := run_launchingFirst.step (.event (.completed [⟨"first", .failed, none, ""⟩]) ())
  have inert := repeated_completion_inert run ⟨"first", .completed, some 0, ""⟩ [] (.inl ended) ()
  exact ⟨ended, _, run, inert.2 []⟩

end Fleet.Controller
