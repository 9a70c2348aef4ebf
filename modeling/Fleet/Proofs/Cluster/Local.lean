import Fleet.Cluster.Local
import Fleet.Proofs.Retry
import Fleet.Proofs.SortedMap

/-!
# Containers of a local cluster

A local cluster gives every container a name that it never gave before. A container has its place
until it is given back or ends, and its end is reported after the place is free. So whoever follows
the events can account for all places.
-/

namespace Fleet

namespace ClusterEvent

/-- The containers that an event grants, in their order. -/
def granted : ClusterEvent → List String
  | allocated allocations => allocations.map Allocation.replica
  | _ => []

/-- The containers whose end an event reports. -/
def ended : ClusterEvent → List String
  | completed completions => completions.map Completion.replica
  | launchFailed replica _ => [replica]
  | _ => []

end ClusterEvent

namespace LocalCluster

open ClusterError RetryPolicy

variable {cluster before middle after : LocalCluster} {id : String}

/-! ## Names -/

theorem paddedDigits_injective {width first second : Nat}
    (same : Text.paddedDigits width first = Text.paddedDigits width second) : first = second := by
  have value (number : Nat) :
      Nat.ofDigitChars 10 (Text.paddedDigits width number) 0 = number := by
    rw [Text.paddedDigits, Nat.ofDigitChars_append, Nat.ofDigitChars_replicate_zero]
    simp [Nat.ofDigitChars_toDigits]
  rw [← value first, same, value second]

theorem containerName_injective {first second : Nat}
    (same : containerName first = containerName second) : first = second := by
  rw [containerName, containerName, String.append_right_inj] at same
  exact paddedDigits_injective (String.ofList_injective same)

/-- A container has been granted under the name, sooner or later. -/
def Named (cluster : LocalCluster) (id : String) : Prop :=
  ∃ number, 1 ≤ number ∧ number ≤ cluster.granted ∧ containerName number = id

theorem Named.of_le (named : before.Named id) (more : before.granted ≤ after.granted) :
    after.Named id := by
  rcases named with ⟨number, positive, bound, rfl⟩
  exact ⟨number, positive, bound.trans more, rfl⟩

theorem not_named_next (cluster : LocalCluster) :
    ¬cluster.Named (containerName (cluster.granted + 1)) := by
  rintro ⟨number, -, bound, same⟩
  have := containerName_injective same
  omega

/-! ## What is queued -/

/-- The containers whose grants were not received yet. -/
def queuedGrants (cluster : LocalCluster) : List String :=
  cluster.events.flatMap ClusterEvent.granted

/-- The containers whose ends were not heard of yet. -/
def queuedEnds (cluster : LocalCluster) : List String :=
  cluster.events.flatMap ClusterEvent.ended

/-- No event in the queue reports that a launch failed. -/
def Plain (cluster : LocalCluster) : Prop :=
  ∀ replica reason, .launchFailed replica reason ∉ cluster.events

/-- A container that has its place, or whose end is still to be heard of. -/
def Accounts (cluster : LocalCluster) (id : String) : Prop :=
  id ∈ cluster.placements.keys ∨ id ∈ cluster.queuedEnds

/-! ## What the parts of operations change -/

section Parts

variable (cluster : LocalCluster) (event : ClusterEvent) (replica : String)

@[simp]
theorem placements_emit : (cluster.emit event).placements = cluster.placements := by
  simp only [emit]
  split <;> rfl

@[simp]
theorem granted_emit : (cluster.emit event).granted = cluster.granted := by
  simp only [emit]
  split <;> rfl

@[simp]
theorem isRegistered_emit : (cluster.emit event).isRegistered = cluster.isRegistered := by
  simp only [emit]
  split <;> rfl

@[simp]
theorem processes_emit : (cluster.emit event).processes = cluster.processes := by
  simp only [emit]
  split <;> rfl

theorem queuedGrants_emit :
    (cluster.emit event).queuedGrants =
      cluster.queuedGrants ++ if cluster.isRegistered then event.granted else [] := by
  simp only [emit]
  split <;> simp [queuedGrants]

theorem queuedEnds_emit :
    (cluster.emit event).queuedEnds =
      cluster.queuedEnds ++ if cluster.isRegistered then event.ended else [] := by
  simp only [emit]
  split <;> simp [queuedEnds]

@[simp]
theorem placements_announce : cluster.announce.placements = cluster.placements :=
  cluster.placements_emit _

@[simp]
theorem granted_announce : cluster.announce.granted = cluster.granted :=
  cluster.granted_emit _

@[simp]
theorem isRegistered_announce : cluster.announce.isRegistered = cluster.isRegistered :=
  cluster.isRegistered_emit _

@[simp]
theorem processes_announce : cluster.announce.processes = cluster.processes :=
  cluster.processes_emit _

@[simp]
theorem queuedGrants_announce : cluster.announce.queuedGrants = cluster.queuedGrants := by
  simp [announce, queuedGrants_emit, ClusterEvent.granted]

@[simp]
theorem queuedEnds_announce : cluster.announce.queuedEnds = cluster.queuedEnds := by
  simp [announce, queuedEnds_emit, ClusterEvent.ended]

@[simp]
theorem placements_pull : (cluster.pull replica).placements = cluster.placements := by
  simp only [pull]
  split <;> rfl

@[simp]
theorem granted_pull : (cluster.pull replica).granted = cluster.granted := by
  simp only [pull]
  split <;> rfl

@[simp]
theorem isRegistered_pull : (cluster.pull replica).isRegistered = cluster.isRegistered := by
  simp only [pull]
  split <;> rfl

@[simp]
theorem events_pull : (cluster.pull replica).events = cluster.events := by
  simp only [pull]
  split <;> rfl

@[simp]
theorem queuedGrants_pull : (cluster.pull replica).queuedGrants = cluster.queuedGrants := by
  simp only [queuedGrants, events_pull]

@[simp]
theorem queuedEnds_pull : (cluster.pull replica).queuedEnds = cluster.queuedEnds := by
  simp only [queuedEnds, events_pull]

end Parts

theorem Plain.emit (plain : cluster.Plain) {event : ClusterEvent}
    (other : ∀ replica reason, event ≠ .launchFailed replica reason) :
    (cluster.emit event).Plain := by
  intro replica reason failed
  simp only [LocalCluster.emit] at failed
  split at failed
  · rcases List.mem_append.mp failed with old | new
    · exact plain replica reason old
    · exact other replica reason (List.mem_singleton.mp new).symm
  · exact plain replica reason failed

theorem Plain.announce (plain : cluster.Plain) : cluster.announce.Plain :=
  plain.emit fun _ _ => ClusterEvent.noConfusion

theorem Plain.pull (plain : cluster.Plain) (replica : String) : (cluster.pull replica).Plain := by
  rw [Plain, events_pull]
  exact plain

/-- Pulling a switch kills processes, and neither starts one nor moves it to another container. -/
theorem pull_keeps {Holds : String → Prop} {replica : String}
    (holds : ∀ process ∈ cluster.processes, Holds process.replica) :
    ∀ process ∈ (cluster.pull replica).processes, Holds process.replica := by
  simp only [pull]
  split
  · exact holds
  · intro process member
    rcases List.mem_map.mp member with ⟨other, present, rfl⟩
    split <;> exact holds other present

/-! ## Soundness -/

/-- The cluster gives no name twice, reports the end of no container that has a place, reports no
launch to have failed, and is in contact with the controller as soon as it placed a container. -/
structure Sound (cluster : LocalCluster) : Prop where
  placed : ∀ id ∈ cluster.placements.keys, cluster.Named id
  granted : ∀ id ∈ cluster.queuedGrants, cluster.Named id
  ended : ∀ id ∈ cluster.queuedEnds, cluster.Named id ∧ id ∉ cluster.placements.keys
  processes : ∀ process ∈ cluster.processes, cluster.Named process.replica
  connected : 0 < cluster.granted → cluster.isRegistered = true
  plain : cluster.Plain

namespace Sound

theorem registered (sound : cluster.Sound) (named : cluster.Named id) :
    cluster.isRegistered = true := by
  rcases named with ⟨number, positive, bound, -⟩
  exact sound.connected (by omega)

/-- An end that is still to be heard of is that of a queued completion. -/
theorem completed_of_ended (sound : cluster.Sound) (ended : id ∈ cluster.queuedEnds) :
    ∃ completions, .completed completions ∈ cluster.events ∧
      id ∈ completions.map Completion.replica := by
  rcases List.mem_flatMap.mp ended with ⟨event, queued, reports⟩
  cases event with
  | completed completions => exact ⟨completions, queued, reports⟩
  | launchFailed replica reason => exact absurd queued (sound.plain replica reason)
  | allocated | trouble | resourcesUpdated | shutdownRequested =>
      exact absurd reports List.not_mem_nil

theorem ofNodes (nodes : List NodeConfig) : Sound { nodes := nodes } where
  placed _ member := absurd member List.not_mem_nil
  granted _ member := absurd member List.not_mem_nil
  ended _ member := absurd member List.not_mem_nil
  processes _ member := absurd member List.not_mem_nil
  connected some := absurd some (lt_irrefl 0)
  plain _ _ member := absurd member List.not_mem_nil

end Sound

/-- How a cluster changes while some grants and ends are received from it and some containers are
given back to it. A place that is new has a new name, and its grant is queued; a place that is lost
was given back, or its end is queued. -/
structure Shift (grants ends returned : List String) (before after : LocalCluster) : Prop where
  sound : after.Sound
  more : before.granted ≤ after.granted
  placed : ∀ id ∈ after.placements.keys,
    id ∈ before.placements.keys ∨ ¬before.Named id ∧ after.queuedGrants.count id = 1
  queued : ∀ id, before.Named id →
    before.queuedGrants.count id = grants.count id + after.queuedGrants.count id
  granted : ∀ id ∈ grants, before.Named id
  ended : ∀ id ∈ ends, id ∈ before.queuedEnds
  kept : ∀ id, before.Accounts id → after.Accounts id ∨ id ∈ ends ∨ id ∈ returned

/-- The cluster changes by itself. -/
abbrev Quiet : LocalCluster → LocalCluster → Prop := Shift [] [] []

namespace Shift

variable {grants ends returned : List String}

theorem named (shift : Shift grants ends returned before after) (named : before.Named id) :
    after.Named id :=
  named.of_le shift.more

/-- A container that had its name before, and no place, has none after. -/
theorem not_placed (shift : Shift grants ends returned before after) (named : before.Named id)
    (absent : id ∉ before.placements.keys) : id ∉ after.placements.keys := by
  intro placed
  rcases shift.placed id placed with old | ⟨unnamed, -⟩
  · exact absent old
  · exact unnamed named

/-- After a change the cluster changes by itself. -/
theorem then_quiet (first : Shift grants ends returned before middle)
    (second : Quiet middle after) : Shift grants ends returned before after where
  sound := second.sound
  more := first.more.trans second.more
  placed := by
    intro id placed
    rcases second.placed id placed with old | ⟨unnamed, once⟩
    · rcases first.placed id old with older | ⟨unnamed, once⟩
      · exact Or.inl older
      · -- A grant of the first change is still queued, since nothing is received in the second.
        have counted := second.queued id (first.sound.placed id old)
        rw [List.count_nil, Nat.zero_add] at counted
        exact Or.inr ⟨unnamed, counted.symm.trans once⟩
    · exact Or.inr ⟨fun named => unnamed (first.named named), once⟩
  queued := by
    intro id named
    have counted := second.queued id (first.named named)
    rw [List.count_nil, Nat.zero_add] at counted
    rw [first.queued id named, counted]
  granted := first.granted
  ended := first.ended
  kept := by
    intro id accounts
    rcases first.kept id accounts with still | received
    · rcases second.kept id still with after | none | none
      · exact Or.inl after
      · exact absurd none List.not_mem_nil
      · exact absurd none List.not_mem_nil
    · exact Or.inr received

/-- Of a container that a cluster accounts for, it accounts after it changed by itself. -/
theorem accounts (quiet : Quiet before after) (accounts : before.Accounts id) :
    after.Accounts id := by
  rcases quiet.kept id accounts with still | none | none
  · exact still
  · exact absurd none List.not_mem_nil
  · exact absurd none List.not_mem_nil

end Shift

namespace Sound

/-- A cluster that grants nothing meanwhile may lose places, each of which was given back or is
reported to have ended. -/
theorem change {reported returned : List String} (sound : before.Sound)
    (fewer : ∀ id ∈ after.placements.keys, id ∈ before.placements.keys)
    (granted : after.granted = before.granted)
    (registered : before.isRegistered = true → after.isRegistered = true)
    (processes : ∀ process ∈ after.processes, before.Named process.replica)
    (grants : after.queuedGrants = before.queuedGrants)
    (ends : after.queuedEnds = before.queuedEnds ++ reported)
    (plain : after.Plain)
    (gone : ∀ id ∈ reported, before.Named id ∧ id ∉ after.placements.keys)
    (lost : ∀ id ∈ before.placements.keys, id ∉ after.placements.keys →
      id ∈ reported ∨ id ∈ returned) : Shift [] [] returned before after where
  sound := by
    have named {id : String} (named : before.Named id) : after.Named id := named.of_le granted.ge
    refine ⟨fun id placed => named (sound.placed id (fewer id placed)), ?_, ?_,
      fun process member => named (processes process member), ?_, plain⟩
    · rw [grants]
      exact fun id queued => named (sound.granted id queued)
    · rw [ends]
      intro id ended
      rcases List.mem_append.mp ended with old | new
      · exact ⟨named (sound.ended id old).1, fun placed => (sound.ended id old).2 (fewer id placed)⟩
      · exact (gone id new).imp_left named
    · rw [granted]
      exact fun some => registered (sound.connected some)
  more := granted.ge
  placed id placed := Or.inl (fewer id placed)
  queued id _ := by rw [grants, List.count_nil, Nat.zero_add]
  granted _ member := absurd member List.not_mem_nil
  ended _ member := absurd member List.not_mem_nil
  kept := by
    intro id accounts
    simp only [Accounts, ends, List.mem_append]
    by_cases still : id ∈ after.placements.keys
    · exact Or.inl (Or.inl still)
    · rcases accounts with placed | ended
      · rcases lost id placed still with reported | returned
        · exact Or.inl (Or.inr (Or.inr reported))
        · exact Or.inr (Or.inr returned)
      · exact Or.inl (Or.inr (Or.inl ended))

/-- A change of which the containers and the events do not know. -/
theorem quiet (sound : before.Sound) (placements : after.placements = before.placements)
    (granted : after.granted = before.granted)
    (registered : before.isRegistered = true → after.isRegistered = true)
    (processes : ∀ process ∈ after.processes, before.Named process.replica)
    (events : after.events = before.events) : Quiet before after := by
  have grants : after.queuedGrants = before.queuedGrants := by
    rw [queuedGrants, events, queuedGrants]
  have ends : after.queuedEnds = before.queuedEnds ++ [] := by
    rw [queuedEnds, events, List.append_nil, queuedEnds]
  have plain : after.Plain := by
    rw [Plain, events]
    exact sound.plain
  refine sound.change ?_ granted registered processes grants ends plain ?_ ?_
  · rw [placements]
    exact fun _ placed => placed
  · exact fun _ member => absurd member List.not_mem_nil
  · rw [placements]
    exact fun _ placed absent => absurd placed absent

theorem refl (sound : cluster.Sound) : Quiet cluster cluster :=
  sound.quiet rfl rfl id sound.processes rfl

/-! ## Operations -/

theorem register (sound : cluster.Sound) : Quiet cluster cluster.register.2 := by
  simp only [LocalCluster.register]
  split
  · exact sound.refl
  · exact sound.quiet rfl rfl (fun _ => rfl) sound.processes rfl

theorem place (sound : before.Sound) (registered : before.isRegistered = true)
    (request : AllocationRequest) (node : NodeConfig) (position : Nat) :
    Quiet before (before.place request node position) := by
  have unnamed := before.not_named_next
  have more : (before.place request node position).granted = before.granted + 1 := by
    simp [LocalCluster.place]
  have new : (before.place request node position).Named (containerName (before.granted + 1)) :=
    ⟨before.granted + 1, by omega, more.ge, rfl⟩
  have placements (id : String) : id ∈ (before.place request node position).placements.keys ↔
      id = containerName (before.granted + 1) ∨ id ∈ before.placements.keys := by
    simp [LocalCluster.place, ← SortedMap.contains_iff_mem_keys, SortedMap.contains_insert]
  have grants : (before.place request node position).queuedGrants =
      before.queuedGrants ++ [containerName (before.granted + 1)] := by
    rw [LocalCluster.place, queuedGrants_announce, queuedGrants_emit, if_pos registered]
    rfl
  have ends : (before.place request node position).queuedEnds = before.queuedEnds := by
    rw [LocalCluster.place, queuedEnds_announce, queuedEnds_emit, if_pos registered]
    exact List.append_nil _
  have processes : (before.place request node position).processes = before.processes := by
    simp [LocalCluster.place]
  have connected : (before.place request node position).isRegistered = true := by
    simp [LocalCluster.place, registered]
  have plain : (before.place request node position).Plain := by
    refine Plain.announce (Plain.emit ?_ ?_)
    · exact sound.plain
    · simp
  generalize before.place request node position = after at *
  have named {id : String} (named : before.Named id) : after.Named id := named.of_le (by omega)
  generalize containerName (before.granted + 1) = name at unnamed grants new placements
  have other {id : String} (named : before.Named id) : id ≠ name := by
    rintro rfl
    exact unnamed named
  exact
    { sound :=
        { placed := by
            intro id placed
            rcases (placements id).mp placed with rfl | old
            · exact new
            · exact named (sound.placed id old)
          granted := by
            intro id queued
            rw [grants, List.mem_append, List.mem_singleton] at queued
            rcases queued with old | rfl
            · exact named (sound.granted id old)
            · exact new
          ended := by
            intro id ended
            rw [ends] at ended
            refine ⟨named (sound.ended id ended).1, ?_⟩
            rw [placements, not_or]
            exact ⟨other (sound.ended id ended).1, (sound.ended id ended).2⟩
          processes := by
            rw [processes]
            exact fun process member => named (sound.processes process member)
          connected := fun _ => connected
          plain := plain }
      more := by omega
      placed := by
        intro id placed
        rcases (placements id).mp placed with rfl | old
        · have absent : id ∉ before.queuedGrants := fun queued => unnamed (sound.granted id queued)
          rw [grants, List.count_append, List.count_eq_zero_of_not_mem absent]
          exact Or.inr ⟨unnamed, by simp⟩
        · exact Or.inl old
      queued := by
        intro id named
        rw [grants, List.count_append, List.count_nil, List.count_singleton,
          if_neg (by simpa using Ne.symm (other named))]
        omega
      granted := fun _ member => absurd member List.not_mem_nil
      ended := fun _ member => absurd member List.not_mem_nil
      kept := by
        intro id accounts
        simp only [Accounts, placements, ends]
        exact Or.inl (accounts.imp_left Or.inr) }

theorem request (sound : cluster.Sound) (request : AllocationRequest) :
    Quiet cluster (cluster.request request).2 := by
  simp only [LocalCluster.request]
  split
  · next registered =>
      split
      · exact sound.place registered ..
      · exact sound.refl
  · exact sound.refl

theorem finish (sound : before.Sound) {completion : Completion}
    (named : before.Named completion.replica) : Quiet before (before.finish completion) := by
  have registered := sound.registered named
  have keys : (before.finish completion).placements.keys =
      before.placements.keys.erase completion.replica := by
    simp [LocalCluster.finish, SortedMap.keys_erase]
  have ends : (before.finish completion).queuedEnds =
      before.queuedEnds ++ [completion.replica] := by
    rw [LocalCluster.finish, queuedEnds_announce, queuedEnds_emit, isRegistered_pull,
      if_pos registered, queuedEnds_pull]
    rfl
  have plain : (before.finish completion).Plain := by
    refine Plain.announce (Plain.emit (Plain.pull ?_ completion.replica) ?_)
    · exact sound.plain
    · simp
  refine sound.change ?_ ?_ ?_ ?_ ?_ ends plain ?_ ?_
  · rw [keys]
    exact fun _ placed => List.mem_of_mem_erase placed
  · simp [LocalCluster.finish]
  · simp [LocalCluster.finish]
  · simp only [LocalCluster.finish, processes_announce, processes_emit]
    exact pull_keeps sound.processes
  · rw [LocalCluster.finish, queuedGrants_announce, queuedGrants_emit, isRegistered_pull,
      if_pos registered, queuedGrants_pull]
    exact List.append_nil _
  · intro id reported
    obtain rfl := List.mem_singleton.mp reported
    rw [keys]
    exact ⟨named, before.placements.nodup_keys.not_mem_erase⟩
  · intro id placed absent
    rw [keys, before.placements.nodup_keys.mem_erase_iff] at absent
    exact Or.inl (List.mem_singleton.mpr (by_contra fun other => absent ⟨other, placed⟩))

theorem pull (sound : cluster.Sound) (replica : String) : Quiet cluster (cluster.pull replica) :=
  sound.quiet (placements_pull ..) (granted_pull ..) (by simp) (pull_keeps sound.processes)
    (events_pull ..)

/-- Giving a container back frees its place, and changes nothing where it has none. -/
theorem release (sound : before.Sound) (id : String) :
    Shift [] [] (if before.placements.contains id then [id] else []) before
      (before.release id).2 := by
  simp only [LocalCluster.release]
  split
  · have ends : ((({ before with placements := before.placements.erase id } : LocalCluster).pull
        id).announce).queuedEnds = before.queuedEnds ++ [] := by
      rw [queuedEnds_announce, queuedEnds_pull, List.append_nil]
      rfl
    refine sound.change ?_ ?_ ?_ ?_ ?_ ends ?_ ?_ ?_
    · simp only [placements_announce, placements_pull, SortedMap.keys_erase]
      exact fun _ placed => List.mem_of_mem_erase placed
    · simp only [granted_announce, granted_pull]
    · simp only [isRegistered_announce, isRegistered_pull, imp_self]
    · rw [processes_announce]
      exact pull_keeps sound.processes
    · rw [queuedGrants_announce, queuedGrants_pull]
      rfl
    · refine Plain.announce (Plain.pull ?_ id)
      exact sound.plain
    · exact fun _ member => absurd member List.not_mem_nil
    · intro other placed absent
      simp only [placements_announce, placements_pull, SortedMap.keys_erase,
        before.placements.nodup_keys.mem_erase_iff] at absent
      exact Or.inr (List.mem_singleton.mpr (by_contra fun different => absent ⟨different, placed⟩))
  · exact sound.refl

theorem launch (sound : cluster.Sound) (replica : String) (logs : Except String Unit) :
    Quiet cluster (cluster.launch replica logs).2 := by
  simp only [LocalCluster.launch]
  split
  · next placed =>
      cases logs with
      | error reason => exact sound.refl
      | ok =>
          refine sound.quiet (placements_pull ..) (granted_pull ..) (by simp) ?_ (events_pull ..)
          intro process member
          rcases List.mem_append.mp member with old | new
          · exact pull_keeps sound.processes process old
          · obtain rfl := List.mem_singleton.mp new
            exact sound.placed replica (SortedMap.contains_iff_mem_keys.mp placed)
  · exact sound.refl

theorem stop (sound : cluster.Sound) (replica : String) :
    Quiet cluster (cluster.stop replica).2 := by
  simp only [LocalCluster.stop]
  split
  · exact sound.pull replica
  · split
    · next placed =>
        exact sound.finish (sound.placed replica (SortedMap.contains_iff_mem_keys.mp placed))
    · exact sound.refl

theorem reap (sound : cluster.Sound) {process : ContainerProcess}
    (member : process ∈ cluster.processes) (ending : ProcessEnding) :
    Quiet cluster (cluster.reap process ending) := by
  have removed : Quiet cluster
      { cluster with processes := cluster.processes.filter (·.number ≠ process.number) } :=
    sound.quiet rfl rfl id (fun other remaining => sound.processes other
      (List.mem_of_mem_filter remaining)) rfl
  refine removed.then_quiet (removed.sound.finish ?_)
  have named := removed.named (sound.processes process member)
  split
  · exact named
  · cases ending with
    | exited code => cases code <;> exact named
    | signalled => exact named

end Sound

/-! ## Receiving -/

/-- Takes the oldest event off the queue. -/
def next? (cluster : LocalCluster) : Option ClusterEvent × LocalCluster :=
  match cluster.events with
  | [] => (none, cluster)
  | event :: rest => (some event, { cluster with events := rest })

theorem Sound.next? {event : ClusterEvent} (sound : before.Sound)
    (received : before.next? = (some event, after)) :
    Shift event.granted event.ended [] before after := by
  unfold LocalCluster.next? at received
  split at received
  · cases received
  · next rest queue =>
      obtain ⟨rfl, rfl⟩ := received
      have grants : before.queuedGrants = event.granted ++ rest.flatMap ClusterEvent.granted := by
        rw [queuedGrants, queue, List.flatMap_cons]
      have ends : before.queuedEnds = event.ended ++ rest.flatMap ClusterEvent.ended := by
        rw [queuedEnds, queue, List.flatMap_cons]
      have granted := sound.granted
      have ended := sound.ended
      rw [grants] at granted
      rw [ends] at ended
      exact
        { sound :=
            { sound with
              granted := fun id queued => granted id (List.mem_append_right _ queued)
              ended := fun id queued => ended id (List.mem_append_right _ queued)
              plain := fun replica reason failed => sound.plain replica reason
                (queue ▸ List.mem_cons_of_mem event failed) }
          more := le_rfl
          placed := fun id placed => Or.inl placed
          queued := by
            intro id _
            rw [grants, List.count_append]
            rfl
          granted := fun id member => granted id (List.mem_append_left _ member)
          ended := by
            intro id member
            rw [ends]
            exact List.mem_append_left _ member
          kept := by
            intro id accounts
            rw [Accounts, ends, List.mem_append] at accounts
            rcases accounts with placed | now | later
            · exact Or.inl (Or.inl placed)
            · exact Or.inr (Or.inl now)
            · exact Or.inl (Or.inr later) }

/-! ## What operations answer -/

/-- Nothing is left from earlier attempts. -/
theorem previous_of_registered {registration : Registration}
    (registered : cluster.register.1 = .ok registration) : registration.previous = [] := by
  simp only [register] at registered
  split at registered
  · cases registered
  · obtain rfl := Except.ok.inj registered
    rfl

theorem placed_of_launched {replica : String} {logs : Except String Unit}
    (launched : (cluster.launch replica logs).1 = .ok ()) :
    replica ∈ (cluster.launch replica logs).2.placements.keys := by
  simp only [launch] at launched ⊢
  split at launched
  · next placed =>
      cases logs with
      | error reason => cases launched
      | ok =>
          rw [if_pos placed]
          simp only [placements_pull]
          exact SortedMap.contains_iff_mem_keys.mp placed
  · cases launched

theorem not_placed_release (cluster : LocalCluster) (id : String) :
    id ∉ (cluster.release id).2.placements.keys := by
  simp only [release]
  split
  · simp only [placements_announce, placements_pull, SortedMap.keys_erase]
    exact cluster.placements.nodup_keys.not_mem_erase
  · next absent => exact mt SortedMap.contains_iff_mem_keys.mpr absent

theorem concludes_register (cluster : LocalCluster) : Concludes isTransient cluster.register.1 := by
  simp only [register]
  split
  · exact concludes_error rfl
  · exact concludes_ok _

theorem concludes_request (cluster : LocalCluster) (request : AllocationRequest) :
    Concludes isTransient (cluster.request request).1 := by
  simp only [LocalCluster.request]
  split
  · split
    · exact concludes_ok _
    · exact concludes_error rfl
  · exact concludes_error rfl

theorem concludes_release (cluster : LocalCluster) (id : String) :
    Concludes isTransient (cluster.release id).1 := by
  simp only [release]
  split
  · exact concludes_ok _
  · exact concludes_error rfl

theorem concludes_launch (cluster : LocalCluster) (replica : String) (logs : Except String Unit) :
    Concludes isTransient (cluster.launch replica logs).1 := by
  simp only [launch]
  split
  · cases logs with
    | error reason => exact concludes_error rfl
    | ok => exact concludes_ok _
  · exact concludes_error rfl

theorem concludes_stop (cluster : LocalCluster) (replica : String) :
    Concludes isTransient (cluster.stop replica).1 := by
  simp only [stop]
  split
  · exact concludes_ok _
  · split
    · exact concludes_ok _
    · exact concludes_error rfl

/-! ## Processes that end -/

/-- Some processes end, one after the other. -/
inductive Reaped : LocalCluster → LocalCluster → Prop
  | stay (cluster : LocalCluster) : Reaped cluster cluster
  | reap {before middle : LocalCluster} (earlier : Reaped before middle)
      {process : ContainerProcess} (member : process ∈ middle.processes)
      (ending : ProcessEnding) : Reaped before (middle.reap process ending)

theorem Reaped.quiet (reaped : Reaped before after) (sound : before.Sound) :
    Quiet before after := by
  induction reaped with
  | stay => exact sound.refl
  | reap earlier member ending ih => exact ih.then_quiet (ih.sound.reap member ending)

end LocalCluster

end Fleet
