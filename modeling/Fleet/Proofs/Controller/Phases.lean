import Fleet.Proofs.Controller.Records
import Fleet.Proofs.Controller.Stops

/-!
# Phases of running replicas

A replica that is asked to stop loses its phase, and when the stop fails the phase is told again by
the time at which the replica got ready. This gives back what it was: while the stop is in flight
nobody probes the replica, and no other container comes to run under its name, as long as none is
granted twice.
-/

namespace Fleet

namespace Replica

/-- The phase of a running replica goes with the time at which it got ready, unless it was asked to
stop. -/
def IsPhased (replica : Replica) : Prop :=
  replica.phase = .launching ∧ replica.readyAt = none ∨
    replica.phase = .ready ∧ replica.readyAt.isSome = true ∨
      replica.phase = .stopping

/-- The replica after a failed stop. -/
def spared (replica : Replica) : Replica :=
  { replica with phase := if replica.readyAt.isSome then .ready else .launching }

theorem isPhased_spared (replica : Replica) : replica.spared.IsPhased := by
  cases ready : replica.readyAt with
  | none => exact Or.inl ⟨by simp [spared, ready], ready⟩
  | some time => exact Or.inr (Or.inl ⟨by simp [spared, ready], by simp [spared, ready]⟩)

/-- Asking a replica to stop and sparing it then leaves it as it was. -/
theorem IsPhased.spared_eq {replica : Replica} (phased : replica.IsPhased)
    (active : replica.isActive = true) :
    spared { replica with phase := .stopping } = replica := by
  rcases replica with ⟨id, node, host, resources, phase, launchedAt, readyAt⟩
  rcases phased with ⟨rfl, rfl⟩ | ⟨rfl, ready⟩ | rfl
  · rfl
  · simp only [spared]
    rw [if_pos ready]
  · cases active

end Replica

namespace Controller

variable {World : Type} {surroundings : Surroundings World} {before after : Controller}

/-! ## Probing -/

theorem exists_readied_of_mem {replicas probed : List Replica} {replica : Replica}
    (readied : List.Forall₂ Readied replicas probed) (member : replica ∈ probed) :
    ∃ old ∈ replicas, Readied old replica := by
  induction readied with
  | nil => cases member
  | @cons old new rest others step _ ih =>
      rcases List.mem_cons.mp member with rfl | later
      · exact ⟨old, List.mem_cons_self, step⟩
      · rcases ih later with ⟨other, present, readied⟩
        exact ⟨other, List.mem_cons_of_mem _ present, readied⟩

theorem Readied.isPhased {old replica : Replica} (readied : Readied old replica)
    (phased : old.IsPhased) : replica.IsPhased := by
  rcases readied with rfl | ⟨-, -, now, rfl⟩
  · exact phased
  · exact Or.inr (Or.inl ⟨rfl, rfl⟩)

/-! ## Changes of one replica -/

section Changes

variable {change : Replica → Replica} {replicas : List Replica} {id : String}

theorem map_change_of_absent (absent : id ∉ replicas.map Replica.id) :
    (replicas.map fun replica => if replica.id = id then change replica else replica) =
      replicas := by
  refine (List.map_congr_left fun replica member => if_neg ?_).trans (List.map_id replicas)
  rintro rfl
  exact absent (List.mem_map_of_mem member)

/-- Where the names are distinct, the replica that is found can be changed by its name. -/
theorem changeFirst_eq_map {chosen : Replica → Bool} {first : Replica}
    (distinct : (replicas.map Replica.id).Nodup) (found : replicas.find? chosen = some first) :
    changeFirst chosen change replicas =
      replicas.map fun replica => if replica.id = first.id then change replica else replica := by
  induction replicas with
  | nil => cases found
  | cons replica rest ih =>
      rcases List.nodup_cons.mp distinct with ⟨fresh, others⟩
      simp only [changeFirst, List.map_cons]
      by_cases here : chosen replica
      · rw [List.find?_cons_of_pos here] at found
        obtain rfl := Option.some.inj found
        rw [if_pos here, if_pos rfl, map_change_of_absent fresh]
      · rw [List.find?_cons_of_neg here] at found
        have different : replica.id ≠ first.id := fun same =>
          fresh (same ▸ List.mem_map_of_mem (List.mem_of_find?_eq_some found))
        rw [if_neg here, if_neg different, ih others found]

theorem changeFirst_id_eq_map (distinct : (replicas.map Replica.id).Nodup) :
    changeFirst (·.id = id) change replicas =
      replicas.map fun replica => if replica.id = id then change replica else replica := by
  cases found : replicas.find? (·.id = id) with
  | some first =>
      have named : first.id = id := by simpa using List.find?_some found
      rw [changeFirst_eq_map distinct found, named]
  | none =>
      rw [map_change_of_absent (find?_id_eq_none_iff.mp found)]
      refine (changeFirst_congr fun replica first => ?_).trans (changeFirst_id _ replicas)
      cases found.symm.trans first

theorem mem_changed {replica : Replica}
    (member : replica ∈ replicas.map fun other => if other.id = id then change other else other) :
    (∃ old ∈ replicas, old.id = id ∧ replica = change old) ∨
      replica ∈ replicas ∧ replica.id ≠ id := by
  rcases List.mem_map.mp member with ⟨old, present, rfl⟩
  split
  · next named => exact Or.inl ⟨old, present, named, rfl⟩
  · next other => exact Or.inr ⟨present, other⟩

end Changes

/-! ## What holds while stops are in flight -/

/-- A replica that was asked to stop is not being launched, and if it runs it is what it was made
then. -/
structure Frozen (controller : Controller) (asked : Replica) : Prop where
  stopping : asked.phase = .stopping
  unchanged : ∀ replica ∈ controller.running, replica.id = asked.id → replica = asked
  apart : asked.id ∉ controller.launching.keys

/-- The running replicas are in one of three phases, and no replica is asked to stop again before
the result of its stop was taken. -/
structure Disciplined (controller : Controller) : Prop where
  phased : ∀ replica ∈ controller.running, replica.IsPhased
  single : (controller.background.stops.map Replica.id).Nodup
  frozen : ∀ asked ∈ controller.background.stops, Frozen controller asked

theorem ne_of_unasked {background : Background} {id : String} {asked : Replica}
    (unasked : id ∉ background.stops.map Replica.id) (member : asked ∈ background.stops) :
    asked.id ≠ id := fun named => unasked (Multiset.mem_map.mpr ⟨asked, member, named⟩)

theorem Frozen.of_subset {asked : Replica} (frozen : Frozen before asked)
    (running : after.running ⊆ before.running)
    (launching : after.launching.keys ⊆ before.launching.keys) : Frozen after asked :=
  ⟨frozen.stopping, fun replica member => frozen.unchanged replica (running member),
    fun launched => frozen.apart (launching launched)⟩

namespace Disciplined

theorem ofSettings (settings : ControllerSettings) : Disciplined (.ofSettings settings) where
  phased _ member := absurd member List.not_mem_nil
  single := Multiset.nodup_zero
  frozen _ member := absurd member (Multiset.notMem_zero _)

/-- Nothing is disturbed when containers leave and results of stops are taken. -/
theorem of_subset (disciplined : Disciplined before) (running : after.running ⊆ before.running)
    (launching : after.launching.keys ⊆ before.launching.keys)
    (stops : after.background.stops ≤ before.background.stops) : Disciplined after where
  phased replica member := disciplined.phased replica (running member)
  single := Multiset.nodup_of_le (Multiset.map_le_map stops) disciplined.single
  frozen asked member :=
    (disciplined.frozen asked (Multiset.mem_of_le stops member)).of_subset running launching

theorem of_same (disciplined : Disciplined before) (running : after.running = before.running)
    (launching : after.launching = before.launching)
    (stops : after.background.stops = before.background.stops) : Disciplined after := by
  refine disciplined.of_subset ?_ ?_ stops.le
  · rw [running]
    exact List.Subset.refl _
  · rw [launching]
    exact List.Subset.refl _

theorem requested {limit : Nat} (disciplined : Disciplined before)
    (requested : Requested limit before after) : Disciplined after := by
  have stops := congrArg (Multiset.filterMap Work.stopped?) requested.outstanding
  rw [requested.frame] at stops ⊢
  exact disciplined.of_same rfl rfl stops

theorem adopt (disciplined : Disciplined before) {replica : Replica}
    (unready : replica.readyAt = none)
    (unasked : replica.id ∉ before.background.stops.map Replica.id) (now : Nat) :
    Disciplined (before.adopt replica now) where
  phased other member := by
    rcases List.mem_append.mp member with old | new
    · exact disciplined.phased other old
    · obtain rfl := List.mem_singleton.mp new
      exact Or.inl ⟨rfl, unready⟩
  single := disciplined.single
  frozen asked member := by
    have frozen := disciplined.frozen asked member
    refine ⟨frozen.stopping, ?_, frozen.apart⟩
    intro other running named
    rcases List.mem_append.mp running with old | new
    · exact frozen.unchanged other old named
    · obtain rfl := List.mem_singleton.mp new
      exact absurd named.symm (ne_of_unasked unasked member)

theorem granted {allocation : Allocation} (disciplined : Disciplined before)
    (granted : Granted before allocation after)
    (unasked : allocation.replica ∉ before.background.stops.map Replica.id) :
    Disciplined after := by
  have stops := granted.stops_eq
  cases granted with
  | ignored => exact disciplined
  | released => exact disciplined.of_same rfl rfl stops
  | accepted =>
      refine ⟨disciplined.phased, stops ▸ disciplined.single, ?_⟩
      intro asked member
      rw [stops] at member
      have frozen := disciplined.frozen asked member
      refine ⟨frozen.stopping, frozen.unchanged, ?_⟩
      intro launched
      rcases SortedMap.mem_keys_insert.mp launched with named | old
      · exact ne_of_unasked unasked member named
      · exact frozen.apart old

theorem ended {completion : Completion} {world : World} (disciplined : Disciplined before)
    (ended : Ended surroundings before completion world after) : Disciplined after := by
  have dropped : Disciplined (before.dropReplica completion.replica) :=
    disciplined.of_subset List.eraseP_subset (List.Subset.refl _) le_rfl
  cases ended with
  | buried => exact disciplined.of_same rfl rfl rfl
  | ignored => exact disciplined
  | dropped => exact dropped
  | replaced =>
      have alerted (alert : Alert) :
          Disciplined ((before.dropReplica completion.replica).alert alert) :=
        dropped.of_same rfl rfl rfl
      exact (alerted _).requested (requestMissing_requested ..)

theorem landed {replica : Replica} {now : Nat} {result : Except ClusterError Unit}
    (disciplined : Disciplined before) (landed : Landed before replica now result after)
    (unready : replica.readyAt = none)
    (unasked : replica.id ∉ before.background.stops.map Replica.id) : Disciplined after := by
  have erased : Disciplined { before with launching := before.launching.erase replica.id } := by
    refine disciplined.of_subset (List.Subset.refl _) ?_ le_rfl
    intro id launching
    exact (SortedMap.mem_keys_erase.mp launching).2
  cases landed with
  | discarded => exact erased.of_same rfl rfl rfl
  | adopted => exact (erased.adopt unready unasked now).of_same rfl rfl rfl
  | failed =>
      exact erased.of_same rfl rfl ((before.background.start_stops _).trans (zero_add _))

/-- The replica whose stop has failed is spared, and the others stay as they are. -/
theorem spare {asked : Replica} (disciplined : Disciplined before)
    (distinct : (before.running.map Replica.id).Nodup)
    (running : after.running = changeFirst (·.id = asked.id) Replica.spared before.running)
    (launching : after.launching = before.launching)
    (stops : before.background.stops = asked ::ₘ after.background.stops) : Disciplined after := by
  have single := disciplined.single
  rw [stops, Multiset.map_cons, Multiset.nodup_cons] at single
  rw [changeFirst_id_eq_map distinct] at running
  refine ⟨?_, single.2, ?_⟩
  · intro replica member
    rw [running] at member
    rcases mem_changed member with ⟨old, -, -, rfl⟩ | ⟨same, -⟩
    · exact old.isPhased_spared
    · exact disciplined.phased replica same
  · intro other member
    have frozen := disciplined.frozen other (stops ▸ Multiset.mem_cons_of_mem member)
    refine ⟨frozen.stopping, ?_, launching ▸ frozen.apart⟩
    intro replica present named
    rw [running] at present
    rcases mem_changed present with ⟨old, -, spared, rfl⟩ | ⟨same, -⟩
    · exact absurd (named.symm.trans spared) (ne_of_unasked single.1 member)
    · exact frozen.unchanged replica same named

/-! ## Rounds -/

/-- Probing passes over the replicas that were asked to stop. -/
theorem sampled (disciplined : Disciplined before)
    (readied : List.Forall₂ Readied before.running after.running)
    (launching : after.launching = before.launching)
    (stops : after.background.stops = before.background.stops) : Disciplined after := by
  refine ⟨?_, stops ▸ disciplined.single, ?_⟩
  · intro replica member
    rcases exists_readied_of_mem readied member with ⟨old, was, step⟩
    exact step.isPhased (disciplined.phased old was)
  · intro asked member
    have frozen := disciplined.frozen asked (stops ▸ member)
    refine ⟨frozen.stopping, ?_, launching ▸ frozen.apart⟩
    intro replica present named
    rcases exists_readied_of_mem readied present with ⟨old, was, step⟩
    have same := frozen.unchanged old was (step.id_eq.symm.trans named)
    rcases step with rfl | ⟨-, active, -⟩
    · exact same
    · rw [same, Replica.isStopping, frozen.stopping] at active
      cases active

theorem assessed (disciplined : Disciplined before) (surroundings : Surroundings World)
    (world : World) : Disciplined (before.assessed surroundings world).2.1 := by
  have replenished := (replenish_replenished surroundings before (surroundings.clock world)
    world).frame
  have sampling := assessed_sampled surroundings before world
  refine disciplined.sampled ?_ ?_ (assessed_stops surroundings before world)
  · have readied := sampling.running
    rwa [replenished] at readied
  · rw [sampling.frame, replenished]

/-- No stop of an active replica is in flight. -/
theorem unasked_of_active (disciplined : Disciplined before) {replica : Replica}
    (running : replica ∈ before.running) (active : replica.isActive = true) :
    replica.id ∉ before.background.stops.map Replica.id := by
  intro asked
  rcases Multiset.mem_map.mp asked with ⟨other, member, named⟩
  have frozen := disciplined.frozen other member
  rw [frozen.unchanged replica running named.symm, Replica.isActive, Replica.isStopping,
    frozen.stopping] at active
  cases active

/-- The replica that is asked to stop changes its phase, and the others stay as they are. -/
theorem pick {first : Replica} (disciplined : Disciplined before)
    (distinct : before.known.Nodup)
    (found : before.running.find? Replica.isActive = some first)
    (running : after.running =
      changeFirst Replica.isActive ({ · with phase := .stopping }) before.running)
    (launching : after.launching = before.launching)
    (stops : after.background.stops =
      { first with phase := .stopping } ::ₘ before.background.stops) : Disciplined after := by
  have present := List.mem_of_find?_eq_some found
  have unasked := disciplined.unasked_of_active present (List.find?_some found)
  rcases List.nodup_append'.mp distinct with ⟨names, -, disjoint⟩
  rw [changeFirst_eq_map names found] at running
  refine ⟨?_, ?_, ?_⟩
  · intro replica member
    rw [running] at member
    rcases mem_changed member with ⟨old, -, -, rfl⟩ | ⟨same, -⟩
    · exact Or.inr (Or.inr rfl)
    · exact disciplined.phased replica same
  · rw [stops, Multiset.map_cons, Multiset.nodup_cons]
    exact ⟨unasked, disciplined.single⟩
  · intro asked member
    rw [stops, Multiset.mem_cons] at member
    rcases member with rfl | old
    · refine ⟨rfl, ?_, ?_⟩
      · intro replica member named
        rw [running] at member
        rcases mem_changed member with ⟨other, was, same, rfl⟩ | ⟨-, different⟩
        · rw [List.inj_on_of_nodup_map names was present same]
        · exact absurd named different
      · have named : first.id ∈ before.running.map Replica.id := List.mem_map_of_mem present
        rw [launching]
        exact disjoint named
    · have frozen := disciplined.frozen asked old
      refine ⟨frozen.stopping, ?_, launching ▸ frozen.apart⟩
      intro replica member named
      rw [running] at member
      rcases mem_changed member with ⟨other, -, same, rfl⟩ | ⟨same, -⟩
      · exact absurd (named.symm.trans same) (ne_of_unasked unasked old)
      · exact frozen.unchanged replica same named

theorem halted {victim : Option Replica} (disciplined : Disciplined before)
    (distinct : before.known.Nodup) (halted : Halted before victim after) : Disciplined after := by
  cases halted with
  | idle => exact disciplined
  | stopped found => exact disciplined.pick distinct found rfl rfl (before.background.start_stops _)

theorem acted {target : Nat} {world : World} (disciplined : Disciplined before)
    (distinct : before.known.Nodup)
    (acted : Acted surroundings before target world after) : Disciplined after := by
  have rescaled (event : String) :
      Disciplined (before.rescale event target (surroundings.epoch world)) :=
    disciplined.of_same rfl rfl rfl
  cases acted with
  | raised => exact (rescaled _).requested (requestMissing_requested ..)
  | lowered =>
      have halting :=
        (before.rescale "Scale down" target (surroundings.epoch world)).stopOldest_halted
      rcases halting with ⟨victim, halted⟩
      exact (rescaled _).halted distinct halted
  | trimmed =>
      rcases before.stopOldest_halted with ⟨victim, halted⟩
      exact disciplined.halted distinct halted
  | kept => exact disciplined

theorem ticked (disciplined : Disciplined before) (identified : Identified before)
    (surroundings : Surroundings World) (world : World) :
    Disciplined (before.tick surroundings world).1 := by
  have replenished := replenish_replenished surroundings before (surroundings.clock world) world
  have sampling := assessed_sampled surroundings before world
  have known : (before.assessed surroundings world).2.1.known = before.known :=
    (replenished.sameRoster.trans sampling.sameRoster).known_eq
  rcases tick_acted surroundings before world with ⟨after, ticked, acted⟩
  have reached := (disciplined.assessed surroundings world).acted
    (known ▸ identified.distinct) acted
  rw [ticked]
  exact reached.of_same rfl rfl rfl

/-! ## Steps -/

theorem adoptPrevious (disciplined : Disciplined before) (previous : List Allocation)
    (unasked : ∀ allocation ∈ previous,
      allocation.replica ∉ before.background.stops.map Replica.id) (now : Nat) :
    Disciplined (before.adoptPrevious previous now) ∧
      (before.adoptPrevious previous now).background.stops = before.background.stops := by
  apply adoptPrevious_keeps fun reached => Disciplined reached ∧
    reached.background.stops = before.background.stops
  · rintro allocation member reached - ⟨held, stops⟩
    refine ⟨held.adopt rfl ?_ now, stops⟩
    rw [stops]
    exact unasked allocation member
  · exact ⟨disciplined, rfl⟩

theorem started {registration : Except ClusterError Registration}
    {answer : Except ClusterError Unit} (disciplined : Disciplined before)
    (started : Started surroundings before registration answer after)
    (unasked : ∀ id ∈ (Label.start registration).grants,
      id ∉ before.background.stops.map Replica.id) : Disciplined after := by
  cases started with
  | refused evolved =>
      exact disciplined.of_same rfl rfl ((evolved.filterMap_eq _).trans (zero_add _))
  | @registered background evolved registration now target world =>
      have stops : background.stops = before.background.stops :=
        (evolved.filterMap_eq _).trans (zero_add _)
      have registered : Disciplined
          { before with background := background, available := registration.available } :=
        disciplined.of_same rfl rfl stops
      have adopted := (registered.adoptPrevious registration.previous (fun allocation member =>
        stops ▸ unasked _ (List.mem_map_of_mem member)) now).1
      have targeted (reached : Controller) (held : Disciplined reached) :
          Disciplined { reached with target := target } := held.of_same rfl rfl rfl
      exact ((targeted _ adopted).requested (requestMissing_requested ..)).of_same rfl rfl rfl

theorem allocated (disciplined : Disciplined before) (allocations : List Allocation)
    (unasked : ∀ allocation ∈ allocations,
      allocation.replica ∉ before.background.stops.map Replica.id) :
    Disciplined (allocations.foldl onAllocated before) := by
  have both := allocated_keeps
    (fun reached => Disciplined reached ∧ reached.background.stops = before.background.stops)
    allocations (fun allocation member reached after granted held =>
      ⟨held.1.granted granted (held.2 ▸ unasked allocation member),
        granted.stops_eq.trans held.2⟩) ⟨disciplined, rfl⟩
  exact both.1

theorem event (disciplined : Disciplined before) (event : ClusterEvent)
    (unasked : ∀ id ∈ (Label.event event).grants, id ∉ before.background.stops.map Replica.id)
    (world : World) : Disciplined (before.handleEvent surroundings event world).1 := by
  have handled : Disciplined (before.onEvent surroundings event world).1 := by
    cases event with
    | allocated allocations =>
        exact disciplined.allocated allocations fun allocation member =>
          unasked _ (List.mem_map_of_mem member)
    | completed completions =>
        exact completions_keep surroundings Disciplined completions
          (fun _ _ _ _ _ ended held => held.ended ended) disciplined world
    | launchFailed replica reason =>
        have ended := disciplined.ended
          (onCompleted_ended surroundings before (failedLaunch replica reason) world)
        exact ended.of_same rfl rfl ((Background.start_stops _ _).trans (zero_add _))
    | trouble | resourcesUpdated | shutdownRequested => exact disciplined.of_same rfl rfl rfl
  exact handled.of_same rfl rfl rfl

variable {earlier later : List (Work × Except ClusterError Unit)}
  {result : Except ClusterError Unit}

theorem finished {work : Work} (disciplined : Disciplined before) (identified : Identified before)
    (kept : Kept before)
    (ready : before.background.finished = earlier ++ (work, result) :: later) (now : Nat) :
    Disciplined ((before.withFinished (earlier ++ later)).onFinished work result now) := by
  have stops := stops_withFinished ready
  have taken : Disciplined (before.withFinished (earlier ++ later)) := by
    refine disciplined.of_subset (List.Subset.refl _) (List.Subset.refl _) ?_
    rw [stops]
    exact Multiset.le_add_left _ _
  cases work with
  | launch replica =>
      refine taken.landed (onLaunched_landed ..) (kept.take ready).1 ?_
      intro asked
      rcases Multiset.mem_map.mp asked with ⟨other, member, named⟩
      have launching := (identified.take_launch ready).1
      exact (taken.frozen other member).apart (named ▸ launching)
  | stop replica =>
      cases result with
      | ok => exact taken.of_same rfl rfl rfl
      | error failure =>
          exact disciplined.spare identified.distinct_running rfl rfl stops
  | release id =>
      simp only [onFinished, onReleased]
      split <;> exact taken.of_same rfl rfl rfl

theorem step {label : Label} (disciplined : Disciplined before) (identified : Identified before)
    (kept : Kept before) (step : Step surroundings label before after)
    (unasked : ∀ id ∈ label.grants, id ∉ before.background.stops.map Replica.id) :
    Disciplined after := by
  cases step with
  | start world => exact disciplined.started (startUp_started ..) unasked
  | tick world => exact disciplined.ticked identified surroundings world
  | event event world => exact disciplined.event event unasked world
  | outcome ready world => exact disciplined.finished identified kept ready _
  | progress flying world =>
      refine disciplined.of_same rfl rfl ?_
      exact ((progress_evolves surroundings flying world).filterMap_eq _).trans (zero_add _)

end Disciplined

/-- Whoever was asked to stop had been granted. -/
theorem Run.stop_granted {labels : List Label} {controller : Controller} {asked : Replica}
    (run : Run surroundings labels controller) (member : asked ∈ controller.background.stops) :
    asked.id ∈ grants labels := by
  rcases run.stop_picked member with ⟨earlier, later, chosen, rfl, first, -, picks⟩
  rw [grants_append]
  exact List.mem_append_left _
    (first.known_granted _ (List.mem_append_left _ picks.running))

theorem Run.disciplined {labels : List Label} {controller : Controller}
    (run : Run surroundings labels controller) (once : (grants labels).Nodup) :
    Disciplined controller := by
  induction run with
  | initial settings => exact .ofSettings settings
  | @step labels label before after run step ih =>
      rw [grants_append, grants_singleton, List.nodup_append'] at once
      refine (ih once.1).step run.identified run.kept step ?_
      intro id granted asked
      rcases Multiset.mem_map.mp asked with ⟨replica, member, rfl⟩
      exact once.2.2 (run.stop_granted member) granted

/-! ## What a failed stop gives back -/

/-- A round asked a replica to stop, as the first one that was not being stopped when it had
probed, and no result of a stop of it was taken since. -/
inductive AskedToStop (surroundings : Surroundings World) (probed : Replica) :
    List Label → Controller → Prop
  | tick {labels : List Label} {chosen : Controller} (run : Run surroundings labels chosen)
      (world : World)
      (first : (chosen.assessed surroundings world).2.1.running.find? Replica.isActive =
        some probed)
      (asks : (chosen.tick surroundings world).1.background.stops =
        { probed with phase := .stopping } ::ₘ chosen.background.stops) :
      AskedToStop surroundings probed (labels ++ [.tick]) (chosen.tick surroundings world).1
  | step {labels : List Label} {label : Label} {before after : Controller}
      (asked : AskedToStop surroundings probed labels before)
      (step : Step surroundings label before after)
      (pending : ∀ stopped ∈ label.stopped?, stopped.id ≠ probed.id) :
      AskedToStop surroundings probed (labels ++ [label]) after

/-- A failed stop makes a replica what it was when it was asked to stop. -/
theorem AskedToStop.spared_eq {labels : List Label} {controller : Controller} {probed : Replica}
    (asked : AskedToStop surroundings probed labels controller) (once : (grants labels).Nodup) :
    Replica.spared { probed with phase := .stopping } = probed := by
  induction asked with
  | tick run world first asks =>
      rw [grants_append] at once
      have assessed := (run.disciplined once.of_append_left).assessed surroundings world
      exact (assessed.phased probed (List.mem_of_find?_eq_some first)).spared_eq
        (List.find?_some first)
  | step _ _ _ ih =>
      rw [grants_append] at once
      exact ih once.of_append_left

/-- When the result of a stop is taken, no other stop of its replica is outstanding. -/
theorem Disciplined.not_outstanding_of_taken {label : Label} {stopped : Replica}
    (disciplined : Disciplined before) (step : Step surroundings label before after)
    (taken : stopped ∈ label.stopped?) :
    stopped.id ∉ after.background.stops.map Replica.id := by
  rcases step.stops_eq with ⟨victim, stops, picked⟩
  have nobody : victim = none := by
    refine Option.eq_none_iff_forall_not_mem.mpr fun replica member => ?_
    rw [(picked replica member).1] at taken
    cases taken
  rw [nobody, show label.stopped? = some stopped from taken] at stops
  have all : before.background.stops = stopped ::ₘ after.background.stops :=
    (zero_add _).symm.trans stops.symm
  have single := disciplined.single
  rw [all, Multiset.map_cons, Multiset.nodup_cons] at single
  exact single.1

/-- Every outstanding stop is that of a replica that was asked once and has not answered since. -/
theorem Run.asked {labels : List Label} {controller : Controller} {asked : Replica}
    (run : Run surroundings labels controller) (once : (grants labels).Nodup)
    (outstanding : asked ∈ controller.background.stops) :
    ∃ probed, AskedToStop surroundings probed labels controller ∧
      asked = { probed with phase := .stopping } := by
  induction run with
  | initial settings => cases outstanding
  | @step labels label before after run step ih =>
      rw [grants_append] at once
      by_cases old : asked ∈ before.background.stops
      · rcases ih once.of_append_left old with ⟨probed, history, rfl⟩
        refine ⟨probed, history.step step ?_, rfl⟩
        intro stopped taken named
        have single := (run.disciplined once.of_append_left).not_outstanding_of_taken step taken
        exact ne_of_unasked single outstanding named.symm
      · have new {taken : Multiset Replica} {victim : Option Replica}
            (stops : taken + after.background.stops =
              (victim.toList : Multiset Replica) + before.background.stops) : asked ∈ victim := by
          have member := Multiset.mem_add.mpr (Or.inr outstanding : asked ∈ taken ∨ _)
          rw [stops, Multiset.mem_add] at member
          exact Option.mem_toList.mp (member.resolve_right old)
        rcases step.stops_eq with ⟨victim, stops, picked⟩
        obtain rfl := (picked asked (new stops)).1
        cases step with
        | tick world =>
            rcases tick_asks surroundings before world with ⟨victim, stops, found⟩
            have chosen := new ((zero_add _).trans stops)
            obtain rfl : victim = some asked := chosen
            rcases found asked rfl with ⟨probed, first, rfl⟩
            exact ⟨probed, .tick run world first stops, rfl⟩

/-- The phases of running replicas and the undoing of a failed stop. In every run in which no
container is granted twice, each running replica is launching and has not been ready, or is ready
since some time, or is being stopped. Of each replica one stop is outstanding at most, and as long
as one is, the replica is what it was made when it was asked, if it is still running. When a stop
has failed, the replica becomes exactly what it was when the round picked it that asked for this
stop, whatever steps were made in between, and the other ones stay as they are. -/
theorem failed_stop_undone {labels : List Label} {controller : Controller}
    (run : Run surroundings labels controller) (once : (grants labels).Nodup) :
    (∀ replica ∈ controller.running, replica.IsPhased) ∧
      (controller.background.stops.map Replica.id).Nodup ∧
      (∀ asked ∈ controller.background.stops, asked.phase = .stopping ∧
        ∀ replica ∈ controller.running, replica.id = asked.id → replica = asked) ∧
      ∀ asked failure after,
        Step surroundings (.outcome (.stop asked) (.error failure)) controller after →
          ∃ probed, AskedToStop surroundings probed labels controller ∧
            asked = { probed with phase := .stopping } ∧
            after.running = controller.running.map fun replica =>
              if replica.id = asked.id then probed else replica := by
  have disciplined := run.disciplined once
  refine ⟨disciplined.phased, disciplined.single, ?_, ?_⟩
  · intro asked member
    have frozen := disciplined.frozen asked member
    exact ⟨frozen.stopping, frozen.unchanged⟩
  · intro asked failure after step
    cases step with
    | @outcome _ earlier later _ _ ready world =>
        have member : asked ∈ controller.background.stops :=
          (Multiset.mem_filterMap _ _).mpr
            ⟨.stop asked, Background.outstanding_of_ready (ready ▸ List.mem_append_cons_self), rfl⟩
        rcases run.asked once member with ⟨probed, history, rfl⟩
        refine ⟨probed, history, rfl, ?_⟩
        have frozen := disciplined.frozen _ member
        refine (changeFirst_id_eq_map run.identified.distinct_running).trans ?_
        refine List.map_congr_left fun replica running => ?_
        split
        · next named =>
            rw [frozen.unchanged replica running named]
            exact history.spared_eq once
        · rfl

/-- The registration hands over two containers. Their replicas are ready at once, and the launcher
stops none of them. -/
def busyLauncher : Surroundings Unit :=
  { standstill [bareAllocation "first", bareAllocation "second"] with
    ready := fun _ world => (some true, world)
    stop := fun _ world => (.error (.nonRetryable "busy"), world) }

/-- The first of two replicas, being stopped after it got ready. -/
def readyStopping : Replica :=
  { (bareAllocation "first").toReplica with phase := .stopping, readyAt := some 0 }

/-- A round asks the first of two replicas to stop, and another round follows. -/
def twoRounds : List Label :=
  [.start (.ok ⟨[bareAllocation "first", bareAllocation "second"], {}⟩), .tick, .tick]

/-- The controller after both rounds, with the stop still in flight. -/
def duringStop : Controller :=
  ((((ofSettings plainSettings).startUp busyLauncher ()).2.1.tick busyLauncher ()).1.tick
    busyLauncher ()).1

/-- The controller when the stop has failed. -/
def whenStopFailed : Controller :=
  { duringStop with
    background := (Background.stepJob busyLauncher duringStop.settings
      ({ duringStop.background with jobs := [] }, ())
      ⟨.stop readyStopping, some 0, .unstarted⟩).1 }

theorem run_whenStopFailed : Run busyLauncher (twoRounds ++ [.progress]) whenStopFailed := by
  have started := (@Run.initial Unit busyLauncher plainSettings).step (.start ())
  have rounds : Run busyLauncher twoRounds duringStop := (started.step (.tick ())).step (.tick ())
  have flying : duringStop.background.jobs =
      [] ++ ⟨.stop readyStopping, some 0, .unstarted⟩ :: [] := by decide +kernel
  exact rounds.step (.progress flying ())

/-- The controller after it handled the failure. -/
def afterStopFailed : Controller :=
  (whenStopFailed.withFinished []).onFinished (.stop readyStopping)
    (.error (.nonRetryable "busy")) 0

/-- The failure of the stop. -/
def stopFails : Label := .outcome (.stop readyStopping) (.error (.nonRetryable "busy"))

/-- The first of two replicas was ready when it was asked to stop, and is ready again after its
stop has failed. -/
theorem ready_again_after_busy :
    Step busyLauncher stopFails whenStopFailed afterStopFailed ∧
      whenStopFailed.running.map Replica.phase = [.stopping, .ready] ∧
      afterStopFailed.running.map Replica.phase = [.ready, .ready] ∧
      (∀ replica ∈ whenStopFailed.running, replica.IsPhased) ∧
      ∃ probed, AskedToStop busyLauncher probed (twoRounds ++ [.progress]) whenStopFailed ∧
        readyStopping = { probed with phase := .stopping } ∧
        afterStopFailed.running = whenStopFailed.running.map fun replica =>
          if replica.id = readyStopping.id then probed else replica := by
  have ready : whenStopFailed.background.finished =
      [] ++ (.stop readyStopping, .error (.nonRetryable "busy")) :: [] := by decide +kernel
  have step : Step busyLauncher stopFails whenStopFailed afterStopFailed := .outcome ready ()
  have undone := failed_stop_undone run_whenStopFailed (by decide +kernel)
  exact ⟨step, by decide +kernel, by decide +kernel, undone.1,
    undone.2.2.2 readyStopping (.nonRetryable "busy") afterStopFailed step⟩

end Controller

end Fleet
