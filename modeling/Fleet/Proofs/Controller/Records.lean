import Fleet.Proofs.Controller.Identity
import Fleet.Proofs.Controller.Registry
import Fleet.Proofs.Controller.Samples

/-!
# Records of the running set

The aggregator keeps a record of each running replica, with the times of its launch and of its
getting ready, and of nobody else. A record is made when its replica comes to run and dropped when
its completion is handled; in between, samples change it for replicas that run.
-/

namespace Fleet

open Telemetry

/-- When a replica was launched, and when it got ready. -/
def Replica.times (replica : Replica) : Option Nat × Option Nat :=
  (some replica.launchedAt, replica.readyAt)

/-- When the replica of a record was started, and when it got ready. -/
def Telemetry.ReplicaRecord.times (record : ReplicaRecord) : Option Nat × Option Nat :=
  (record.startedAt, record.readyAt)

/-- A launch is that of a replica that was never ready. -/
def Work.IsFresh : Work → Prop
  | launch replica => replica.readyAt = none
  | stop _ | release _ => True

theorem Work.isFresh_launch (allocation : Allocation) : (launch allocation.toReplica).IsFresh := rfl

theorem Work.isFresh_stop (replica : Replica) : (stop replica).IsFresh := trivial

theorem Work.isFresh_release (id : String) : (release id).IsFresh := trivial

namespace Controller

variable {World : Type} {surroundings : Surroundings World} {before after : Controller}

/-! ## Finding replicas -/

theorem find?_id_isSome_iff {running : List Replica} {id : String} :
    (running.find? (·.id = id)).isSome = true ↔ id ∈ running.map Replica.id := by
  simp only [List.find?_isSome, decide_eq_true_eq, List.mem_map]

theorem find?_id_eq_none_iff {running : List Replica} {id : String} :
    running.find? (·.id = id) = none ↔ id ∉ running.map Replica.id := by
  rw [← find?_id_isSome_iff, Option.not_isSome_iff_eq_none]

theorem find?_id_of_mem {running : List Replica} {replica : Replica}
    (distinct : (running.map Replica.id).Nodup) (member : replica ∈ running) :
    running.find? (·.id = replica.id) = some replica := by
  have present := find?_id_isSome_iff.mpr (List.mem_map_of_mem member)
  rcases Option.isSome_iff_exists.mp present with ⟨found, first⟩
  have named : found.id = replica.id := by simpa using List.find?_some first
  have one := List.inj_on_of_nodup_map distinct (List.mem_of_find?_eq_some first) member named
  rw [first, one]

theorem find?_eraseP_of_ne {id gone : String} (different : id ≠ gone) (running : List Replica) :
    (running.eraseP (·.id = gone)).find? (·.id = id) = running.find? (·.id = id) := by
  induction running with
  | nil => rfl
  | cons replica rest ih =>
      by_cases here : replica.id = gone
      · rw [List.eraseP_cons_of_pos (by simpa using here),
          List.find?_cons_of_neg (by simp [here, Ne.symm different])]
      · rw [List.eraseP_cons_of_neg (by simpa using here), List.find?_cons, List.find?_cons, ih]

theorem find?_times_changeFirst {chosen : Replica → Bool} {change : Replica → Replica}
    (keepsId : ∀ replica, (change replica).id = replica.id)
    (keepsTimes : ∀ replica, (change replica).times = replica.times) (id : String)
    (running : List Replica) :
    ((changeFirst chosen change running).find? (·.id = id)).map Replica.times =
      (running.find? (·.id = id)).map Replica.times := by
  induction running with
  | nil => rfl
  | cons replica rest ih =>
      simp only [changeFirst]
      split
      · rw [List.find?_cons, List.find?_cons, keepsId]
        split
        · exact congrArg some (keepsTimes replica)
        · rfl
      · rw [List.find?_cons, List.find?_cons]
        split
        · rfl
        · exact ih

/-! ## Records and replicas -/

/-- Each running replica has a record with its times, and nobody else has a record. -/
def Matches (running : List Replica) (records : SortedMap ReplicaRecord) : Prop :=
  ∀ id, (records.get? id).map ReplicaRecord.times =
    (running.find? (·.id = id)).map Replica.times

namespace Matches

variable {running : List Replica} {records : SortedMap ReplicaRecord}

theorem get?_of_find? (matching : Matches running records) {id : String} {replica : Replica}
    (found : running.find? (·.id = id) = some replica) :
    ∃ record, records.get? id = some record ∧ record.times = replica.times := by
  have same := matching id
  rw [found, Option.map_some, Option.map_eq_some_iff] at same
  exact same

theorem get?_eq_none (matching : Matches running records) {id : String}
    (unknown : id ∉ running.map Replica.id) : records.get? id = none := by
  have same := matching id
  rwa [find?_id_eq_none_iff.mpr unknown, Option.map_none, Option.map_eq_none_iff] at same

theorem mem_keys_iff (matching : Matches running records) (id : String) :
    id ∈ records.keys ↔ id ∈ running.map Replica.id := by
  have same := congrArg Option.isSome (matching id)
  rw [Option.isSome_map, Option.isSome_map] at same
  rw [← SortedMap.contains_iff_mem_keys, ← find?_id_isSome_iff, SortedMap.contains, same]

/-- A change of one replica that keeps its name and its times asks for no change of a record. -/
theorem changeFirst (matching : Matches running records) {chosen : Replica → Bool}
    {change : Replica → Replica} (keepsId : ∀ replica, (change replica).id = replica.id)
    (keepsTimes : ∀ replica, (change replica).times = replica.times) :
    Matches (Controller.changeFirst chosen change running) records := by
  intro id
  rw [find?_times_changeFirst keepsId keepsTimes, matching]

/-- A replica that comes to run gets a record of its start. -/
theorem concat (matching : Matches running records) {replica : Replica}
    (unknown : replica.id ∉ running.map Replica.id) (unready : replica.readyAt = none) :
    Matches (running ++ [replica])
      (records.update replica.id {} ({ · with startedAt := some replica.launchedAt })) := by
  intro id
  rw [List.find?_append]
  by_cases here : id = replica.id
  · subst here
    rw [SortedMap.get?_update_self, matching.get?_eq_none unknown,
      find?_id_eq_none_iff.mpr unknown, Option.none_or,
      List.find?_cons_of_pos (by simp)]
    simp [ReplicaRecord.times, Replica.times, unready]
  · rw [SortedMap.get?_update_of_ne _ _ _ here, matching id,
      List.find?_cons_of_neg (by simpa using Ne.symm here), List.find?_nil, Option.or_none]

/-- A replica that leaves takes its record with it. -/
theorem erase (matching : Matches running records) (distinct : (running.map Replica.id).Nodup)
    (gone : String) : Matches (running.eraseP (·.id = gone)) (records.erase gone) := by
  intro id
  rw [SortedMap.get?_erase]
  by_cases here : id = gone
  · subst here
    have absent : id ∉ (running.eraseP (·.id = id)).map Replica.id := by
      rw [map_eraseP_id]
      exact distinct.not_mem_erase
    rw [if_pos rfl, find?_id_eq_none_iff.mpr absent]
    rfl
  · rw [if_neg here, find?_eraseP_of_ne here, matching]

end Matches

/-! ## Samples -/

theorem Sample.times_note (sample : Sample) (record : ReplicaRecord) :
    (sample.note record).times = record.times := by
  simp only [Sample.note]
  split <;> rfl

/-- A sample of a running replica changes the record where it changes the replica. -/
theorem Tally.record_matches {tally : Tally} (matching : Matches tally.running tally.replicas)
    {sample : Sample} (present : sample.replica ∈ tally.running.map Replica.id) (now : Nat) :
    Matches (tally.record now sample).running (tally.record now sample).replicas := by
  rcases Option.isSome_iff_exists.mp (find?_id_isSome_iff.mpr present) with ⟨replica, found⟩
  rcases matching.get?_of_find? found with ⟨record, kept, times⟩
  intro id
  simp only [Tally.record]
  by_cases here : id = sample.replica
  · subst here
    rw [SortedMap.get?_update_self, kept, Option.map_some, Option.getD_some, Sample.times_note]
    simp only [Sample.marks, Sample.settle, found, Option.any_some]
    by_cases ready : sample.ready
    · rw [if_pos ready, find?_changeFirst_self (Replica.id_readied now), found]
      by_cases awaited : replica.isAwaited
      · have started : record.startedAt = some replica.launchedAt := congrArg Prod.fst times
        simp [ready, awaited, Replica.readied, ReplicaRecord.times, Replica.times, started]
      · simp [ready, awaited, Replica.readied, times]
    · simp [ready, found, times]
  · rw [SortedMap.get?_update_of_ne _ _ _ here, Sample.find?_settle_of_ne here, matching]

theorem recordSamples_matches (samples : List (Nat × Sample)) {controller : Controller}
    (matching : Matches controller.running controller.aggregator.replicas)
    (present : ∀ timed ∈ samples, timed.2.replica ∈ controller.running.map Replica.id) :
    Matches (recordSamples controller samples).1.running
      (recordSamples controller samples).1.aggregator.replicas := by
  induction samples generalizing controller with
  | nil => exact matching
  | cons timed rest ih =>
      rcases timed with ⟨now, sample⟩
      have recorded := tally_recordSample controller now sample
      have ids : (controller.recordSample now sample).1.running.map Replica.id =
          controller.running.map Replica.id :=
        map_eq_of_forall₂_readied Readied.id_eq (recordSample_running ..)
      refine ih ?_ fun other member => ids ▸ present other (List.mem_cons_of_mem _ member)
      have tallied : Matches controller.tally.running controller.tally.replicas := matching
      have first := Tally.record_matches tallied (present (now, sample) List.mem_cons_self) now
      rwa [← recorded] at first

theorem map_replica_probeAll (surroundings : Surroundings World) (replicas : List Replica)
    (breakers : BreakerRegistry) (world : World) :
    (probeAll surroundings replicas breakers world).1.map (·.2.replica) =
      replicas.map Replica.id := by
  induction replicas generalizing breakers world with
  | nil => rfl
  | cons replica rest ih =>
      simp only [probeAll, List.map_cons, ih]
      rfl

theorem assessed_matches (surroundings : Surroundings World) {controller : Controller}
    (matching : Matches controller.running controller.aggregator.replicas) (world : World) :
    Matches (controller.assessed surroundings world).2.1.running
      (controller.assessed surroundings world).2.1.aggregator.replicas := by
  have frame := (replenish_replenished surroundings controller (surroundings.clock world)
    world).frame
  simp only [assessed, assess, sampleReplicas_eq]
  apply recordSamples_matches
  · rw [frame]
    exact matching
  · intro timed member
    have named := List.mem_map_of_mem (f := (·.2.replica)) member
    rw [map_replica_probeAll] at named
    exact (List.filter_sublist.map Replica.id).subset named

/-- Asking a replica to stop changes none of its times. -/
theorem Acted.matches {target : Nat} {world : World}
    (acted : Acted surroundings before target world after)
    (matching : Matches before.running before.aggregator.replicas) :
    Matches after.running after.aggregator.replicas := by
  have stopped (controller : Controller)
      (same : Matches controller.running controller.aggregator.replicas) :
      Matches controller.stopOldest.running controller.stopOldest.aggregator.replicas := by
    simp only [stopOldest]
    split
    · exact same
    · exact same.changeFirst (fun _ => rfl) (fun _ => rfl)
  cases acted with
  | raised =>
      rw [(requestMissing_requested ..).frame]
      exact matching
  | lowered => exact stopped _ matching
  | trimmed => exact stopped _ matching
  | kept => exact matching

/-! ## Steps -/

/-- The records are those of the running set, and no launch is that of a replica that was ever
ready. -/
structure Kept (controller : Controller) : Prop where
  matching : Matches controller.running controller.aggregator.replicas
  launches : ∀ work ∈ controller.background.outstanding, work.IsFresh

namespace Kept

theorem ofSettings (settings : ControllerSettings) : Kept (.ofSettings settings) :=
  ⟨fun _ => rfl, fun _ member => absurd member (Multiset.notMem_zero _)⟩

theorem publish (kept : Kept before) : Kept before.publish := ⟨kept.matching, kept.launches⟩

theorem alert (kept : Kept before) (alert : Alert) : Kept (before.alert alert) :=
  ⟨kept.matching, kept.launches⟩

/-- What leaves the running set and the records as they are, and starts no launch of a replica that
was ever ready. -/
theorem of_added {added : Multiset Work} (kept : Kept before)
    (running : after.running = before.running)
    (records : after.aggregator.replicas = before.aggregator.replicas)
    (outstanding : after.background.outstanding = added + before.background.outstanding)
    (fresh : ∀ work ∈ added, work.IsFresh) : Kept after := by
  refine ⟨?_, ?_⟩
  · rw [running, records]
    exact kept.matching
  · intro work member
    rw [outstanding, Multiset.mem_add] at member
    exact member.elim (fresh work) (kept.launches work)

theorem start (kept : Kept before) {work : Work} (fresh : work.IsFresh) :
    Kept (before.start work) := by
  refine kept.of_added rfl rfl (before.background.start_evolves work).outstanding ?_
  intro other member
  rwa [Multiset.mem_singleton.mp member]

theorem requested {limit : Nat} (kept : Kept before) (requested : Requested limit before after) :
    Kept after := by
  refine ⟨?_, ?_⟩
  · rw [requested.frame]
    exact kept.matching
  · rw [requested.outstanding]
    exact kept.launches

theorem adopt (kept : Kept before) {replica : Replica}
    (unknown : replica.id ∉ before.running.map Replica.id) (unready : replica.readyAt = none)
    (now : Nat) : Kept (before.adopt replica now) :=
  ⟨@Matches.concat _ _ kept.matching { replica with phase := .launching, launchedAt := now } unknown
    unready, kept.launches⟩

theorem adoptPrevious (kept : Kept before) (previous : List Allocation) (now : Nat) :
    Kept (before.adoptPrevious previous now) := by
  apply adoptPrevious_keeps Kept previous now _ kept
  intro allocation _ reached unknown held
  have nowhere := isKnown_eq_false_iff.mp unknown
  rw [known, List.mem_append, not_or] at nowhere
  exact @adopt _ held allocation.toReplica nowhere.1 rfl now

theorem granted {allocation : Allocation} (kept : Kept before)
    (granted : Granted before allocation after) : Kept after := by
  cases granted with
  | ignored => exact kept
  | released =>
      have answered : Kept { before with pending := before.pending.drop 1 } :=
        ⟨kept.matching, kept.launches⟩
      exact answered.start (Work.isFresh_release allocation.replica)
  | accepted =>
      have launching : Kept { before with
          pending := before.pending.drop 1
          launching := before.launching.insert allocation.replica allocation.toReplica } :=
        ⟨kept.matching, kept.launches⟩
      exact launching.start (Work.isFresh_launch allocation)

theorem dropReplica (kept : Kept before) (distinct : (before.running.map Replica.id).Nodup)
    (id : String) : Kept (before.dropReplica id) :=
  ⟨kept.matching.erase distinct id, kept.launches⟩

theorem ended {completion : Completion} {world : World} (kept : Kept before)
    (ended : Ended surroundings before completion world after)
    (distinct : (before.running.map Replica.id).Nodup) : Kept after := by
  cases ended with
  | buried => exact ⟨kept.matching, kept.launches⟩
  | ignored => exact kept
  | dropped => exact kept.dropReplica distinct _
  | replaced =>
      exact ((kept.dropReplica distinct _).alert _).requested (requestMissing_requested ..)

theorem completed (kept : Kept before) (identified : Identified before)
    (completions : List Completion) (world : World) :
    Kept (onCompletions surroundings completions before world).1 := by
  have both := completions_keep surroundings (fun reached => Kept reached ∧ Identified reached)
    completions (fun _ _ _ _ _ ended held =>
      ⟨held.1.ended ended held.2.distinct_running, held.2.ended ended⟩) ⟨kept, identified⟩ world
  exact both.1

theorem onStopped (kept : Kept before) (id : String) (result : Except ClusterError Unit) :
    Kept (before.onStopped id result) := by
  cases result with
  | ok => exact kept.publish
  | error =>
      have changed : Kept (before.changeReplica (·.id = id) fun replica =>
          { replica with phase := if replica.readyAt.isSome then .ready else .launching }) :=
        ⟨kept.matching.changeFirst (fun _ => rfl) (fun _ => rfl), kept.launches⟩
      exact changed.publish

variable {earlier later : List (Work × Except ClusterError Unit)}
  {result : Except ClusterError Unit}

theorem take {work : Work} (kept : Kept before)
    (ready : before.background.finished = earlier ++ (work, result) :: later) :
    work.IsFresh ∧ Kept (before.withFinished (earlier ++ later)) := by
  have outstanding := outstanding_withFinished ready
  refine ⟨kept.launches work ?_, kept.matching, fun other member => kept.launches other ?_⟩
  · rw [outstanding]
    exact Multiset.mem_cons_self _ _
  · rw [outstanding]
    exact Multiset.mem_cons_of_mem member

theorem landed {replica : Replica} {now : Nat} (kept : Kept before)
    (landed : Landed before replica now result after) (unready : replica.readyAt = none)
    (unknown : replica.id ∉ before.running.map Replica.id) : Kept after := by
  cases landed with
  | discarded => exact ⟨kept.matching, kept.launches⟩
  | adopted =>
      have erased : Kept { before with launching := before.launching.erase replica.id } :=
        ⟨kept.matching, kept.launches⟩
      exact (erased.adopt unknown unready now).publish
  | failed =>
      have erased : Kept { before with launching := before.launching.erase replica.id } :=
        ⟨kept.matching, kept.launches⟩
      exact ((erased.alert _).start (Work.isFresh_release replica.id)).publish

theorem finished {work : Work} (kept : Kept before) (identified : Identified before)
    (ready : before.background.finished = earlier ++ (work, result) :: later) (now : Nat) :
    Kept ((before.withFinished (earlier ++ later)).onFinished work result now) := by
  rcases kept.take ready with ⟨fresh, taken⟩
  cases work with
  | launch replica =>
      have launching := (identified.take_launch ready).1
      exact taken.landed (onLaunched_landed ..) fresh
        (identified.not_running_of_launching launching)
  | stop replica => exact taken.onStopped replica.id result
  | release id =>
      simp only [onFinished, onReleased]
      split <;> exact ⟨taken.matching, taken.launches⟩

theorem ticked (kept : Kept before) (surroundings : Surroundings World) (world : World) :
    Kept (before.tick surroundings world).1 := by
  refine ⟨?_, ?_⟩
  · rcases tick_acted surroundings before world with ⟨after, ticked, acted⟩
    rw [ticked]
    exact acted.matches (assessed_matches surroundings kept.matching world)
  · rcases (tick_ticked surroundings before world).work with ⟨victim, outstanding, -⟩
    intro work member
    rw [outstanding, Multiset.mem_add, Multiset.mem_add, Multiset.mem_coe, Multiset.mem_coe,
      List.mem_map, List.mem_map] at member
    rcases member with (⟨replica, -, rfl⟩ | ⟨id, -, rfl⟩) | old
    · exact Work.isFresh_stop replica
    · exact Work.isFresh_release id
    · exact kept.launches work old

theorem started {registration : Except ClusterError Registration}
    {answer : Except ClusterError Unit} (kept : Kept before)
    (started : Started surroundings before registration answer after) : Kept after := by
  cases started with
  | refused evolved => exact kept.of_added rfl rfl evolved.outstanding (by simp)
  | @registered background evolved registration now target world =>
      have registered : Kept
          { before with background := background, available := registration.available } :=
        kept.of_added rfl rfl evolved.outstanding (by simp)
      have targeted (reached : Controller) (kept : Kept reached) :
          Kept { reached with target := target } := ⟨kept.matching, kept.launches⟩
      have adopted := targeted _ (registered.adoptPrevious registration.previous now)
      exact (adopted.requested (requestMissing_requested ..)).publish

theorem event (kept : Kept before) (identified : Identified before) (event : ClusterEvent)
    (world : World) : Kept (before.handleEvent surroundings event world).1 := by
  apply Kept.publish
  cases event with
  | allocated allocations =>
      exact allocated_keeps Kept allocations (fun _ _ _ _ granted held => held.granted granted) kept
  | completed completions => exact kept.completed identified completions world
  | launchFailed replica reason =>
      exact (kept.ended (onCompleted_ended ..) identified.distinct_running).start
        (Work.isFresh_release replica)
  | trouble => exact kept.alert _
  | resourcesUpdated | shutdownRequested => exact ⟨kept.matching, kept.launches⟩

theorem step {label : Label} (kept : Kept before) (identified : Identified before)
    (step : Step surroundings label before after) : Kept after := by
  cases step with
  | start world => exact kept.started (startUp_started ..)
  | tick world => exact kept.ticked surroundings world
  | event event world => exact kept.event identified event world
  | outcome ready world => exact kept.finished identified ready _
  | progress flying world =>
      exact kept.of_added rfl rfl (progress_evolves surroundings flying world).outstanding (by simp)

end Kept

/-- In every run the records are those of the running set. -/
theorem Run.kept {labels : List Label} {controller : Controller}
    (run : Run surroundings labels controller) : Kept controller := by
  induction run with
  | initial settings => exact .ofSettings settings
  | step earlier step ih => exact ih.step earlier.identified step

/-- What is kept for each replica is kept for the running set. In every run the aggregator has
records of the running replicas and of nobody else, with the times at which they were launched and
got ready; and nobody but the allocator, the launcher and the running replicas has a breaker. -/
theorem records_match_running {labels : List Label} {controller : Controller}
    (run : Run surroundings labels controller) :
    controller.aggregator.replicas.keys.Perm (controller.running.map Replica.id) ∧
      (∀ replica ∈ controller.running, ∃ record,
        controller.aggregator.replicas.get? replica.id = some record ∧
          record.startedAt = some replica.launchedAt ∧ record.readyAt = replica.readyAt) ∧
      ∀ key ∈ controller.background.breakers.breakers.keys,
        key = allocatorKey ∨ key = launcherKey ∨ key ∈ controller.running.map Replica.id := by
  have matching := run.kept.matching
  have distinct := run.identified.distinct_running
  refine ⟨?_, ?_, run.guarded⟩
  · exact (List.perm_ext_iff_of_nodup (SortedMap.nodup_keys _) distinct).mpr matching.mem_keys_iff
  · intro replica member
    rcases matching.get?_of_find? (find?_id_of_mem distinct member) with ⟨record, found, times⟩
    exact ⟨record, found, congrArg Prod.fst times, congrArg Prod.snd times⟩

/-- The registration hands over one container, and its replica is ready at once. -/
def oneReady : Surroundings Unit :=
  { standstill [bareAllocation "first"] with ready := fun _ world => (some true, world) }

/-- After one round the record of an adopted replica knows when it was launched and got ready. -/
theorem record_after_round :
    ∃ labels controller, Run oneReady labels controller ∧
      controller.running.map Replica.readyAt = [some 0] ∧
      controller.aggregator.replicas.keys.Perm (controller.running.map Replica.id) ∧
      ∀ replica ∈ controller.running, ∃ record,
        controller.aggregator.replicas.get? replica.id = some record ∧
          record.startedAt = some replica.launchedAt ∧ record.readyAt = replica.readyAt := by
  have run := ((@Run.initial Unit oneReady plainSettings).step (.start ())).step (.tick ())
  have matched := records_match_running run
  exact ⟨_, _, run, by decide +kernel, matched.1, matched.2.1⟩

end Controller

end Fleet
