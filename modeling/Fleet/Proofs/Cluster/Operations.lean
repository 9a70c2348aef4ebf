import Fleet.Proofs.Cluster.Local

/-!
# What operations of a local cluster change

An operation leaves the places as they are, frees the place of one container, or places a new one.
It starts one process at most, under a new number; only the end of a process removes it.
-/

namespace Fleet

namespace LocalCluster

variable {cluster before after : LocalCluster} {id : String}

/-- The cluster after the process of a container was started. -/
def start (cluster : LocalCluster) (replica : String) : LocalCluster :=
  let pulled := cluster.pull replica
  { pulled with
    started := pulled.started + 1
    switches := pulled.switches.insert replica pulled.started
    processes := pulled.processes ++ [{ number := pulled.started, replica := replica }] }

theorem launch_of_placed (placed : cluster.placements.contains id = true) :
    cluster.launch id (.ok ()) = (.ok (), cluster.start id) := by
  simp only [launch, if_pos placed, start]

theorem launch_of_error (cluster : LocalCluster) (replica reason : String) :
    (cluster.launch replica (.error reason)).2 = cluster := by
  simp only [launch]
  split <;> rfl

theorem launch_of_not_placed (absent : ¬cluster.placements.contains id = true)
    (logs : Except String Unit) : (cluster.launch id logs).2 = cluster := by
  simp only [launch, if_neg absent]

/-- The cluster after a container that was not launched is reported to have stopped. -/
def reportStopped (cluster : LocalCluster) (replica : String) : LocalCluster :=
  cluster.finish (stoppedCompletion replica "stopped before launch")

/-! ## Places -/

/-- The places are as before, and nothing was told of them. -/
structure Kept (before after : LocalCluster) : Prop where
  placements : after.placements = before.placements
  granted : after.granted = before.granted
  grants : after.queuedGrants = before.queuedGrants
  ends : after.queuedEnds = before.queuedEnds

/-- The place of a container is free, and some ends were reported. -/
structure Freed (id : String) (reported : List String) (before after : LocalCluster) : Prop where
  placements : after.placements = before.placements.erase id
  granted : after.granted = before.granted
  grants : after.queuedGrants = before.queuedGrants
  ends : after.queuedEnds = before.queuedEnds ++ reported

/-- A container was placed on a node that can host it, and granted under the next name. -/
structure Housed (request : AllocationRequest) (node : NodeConfig) (position : Nat)
    (before after : LocalCluster) : Prop where
  found : before.nodes[position]? = some node
  canHost : before.canHost request node position = true
  placements : after.placements = before.placements.insert (containerName (before.granted + 1))
    ⟨position, request.placement.tag, request.capability⟩
  granted : after.granted = before.granted + 1
  grants : after.queuedGrants = before.queuedGrants ++ [containerName (before.granted + 1)]
  ends : after.queuedEnds = before.queuedEnds

theorem Kept.refl (cluster : LocalCluster) : Kept cluster cluster := ⟨rfl, rfl, rfl, rfl⟩

theorem Kept.trans {reached : LocalCluster} (first : Kept before reached)
    (second : Kept reached after) : Kept before after :=
  ⟨second.placements.trans first.placements, second.granted.trans first.granted,
    second.grants.trans first.grants, second.ends.trans first.ends⟩

theorem kept_pull (cluster : LocalCluster) (replica : String) :
    Kept cluster (cluster.pull replica) := by
  constructor <;> simp

theorem kept_start (cluster : LocalCluster) (replica : String) :
    Kept cluster (cluster.start replica) :=
  ⟨placements_pull .., granted_pull .., queuedGrants_pull .., queuedEnds_pull ..⟩

theorem kept_register (cluster : LocalCluster) : Kept cluster cluster.register.2 := by
  simp only [register]
  split
  · exact Kept.refl cluster
  · exact ⟨rfl, rfl, rfl, rfl⟩

theorem kept_unregister (cluster : LocalCluster) : Kept cluster cluster.unregister.2 := by
  have pulled : Kept cluster (cluster.switches.keys.foldl pull cluster) := by
    apply List.foldlRecOn (motive := Kept cluster)
    · exact Kept.refl cluster
    · intro reached kept replica _
      exact kept.trans (kept_pull reached replica)
  exact ⟨pulled.placements, pulled.granted, pulled.grants, pulled.ends⟩

theorem request_cases (cluster : LocalCluster) (request : AllocationRequest) :
    (cluster.request request).2 = cluster ∨
      cluster.isRegistered = true ∧
        ∃ node position, Housed request node position cluster (cluster.request request).2 := by
  simp only [LocalCluster.request]
  split
  · next registered =>
      split
      · next node position found =>
          have member := List.mem_zipIdx_iff_getElem?.mp (List.mem_of_find?_eq_some found)
          have can := List.find?_some found
          refine Or.inr ⟨registered, node, position, member, can, ?_, ?_, ?_, ?_⟩
          · simp [place]
          · simp [place]
          · simp [place, queuedGrants_emit, registered, ClusterEvent.granted]
            rfl
          · simp [place, queuedEnds_emit, ClusterEvent.ended]
            rfl
      · exact Or.inl rfl
  · exact Or.inl rfl

theorem release_cases (cluster : LocalCluster) (replica : String) :
    (cluster.release replica).2 = cluster ∨
      Freed replica [] cluster (cluster.release replica).2 := by
  simp only [release]
  split
  · refine Or.inr ⟨?_, ?_, ?_, ?_⟩
    · simp
    · simp
    · rw [queuedGrants_announce, queuedGrants_pull]
      rfl
    · rw [queuedEnds_announce, queuedEnds_pull, List.append_nil]
      rfl
  · exact Or.inl rfl

theorem freed_finish (cluster : LocalCluster) (completion : Completion) :
    Freed completion.replica (if cluster.isRegistered then [completion.replica] else []) cluster
      (cluster.finish completion) := by
  refine ⟨?_, ?_, ?_, ?_⟩
  · simp [finish]
  · simp [finish]
  · simp only [finish, queuedGrants_announce, queuedGrants_emit, queuedGrants_pull,
      ClusterEvent.granted, ite_self, List.append_nil]
    rfl
  · simp only [finish, queuedEnds_announce, queuedEnds_emit, queuedEnds_pull, isRegistered_pull]
    rfl

theorem replica_completion (replica : String) (ending : ProcessEnding) :
    (ending.completion replica).replica = replica := by
  cases ending with
  | exited code => cases code <;> rfl
  | signalled => rfl

theorem freed_reap (cluster : LocalCluster) (process : ContainerProcess) (ending : ProcessEnding) :
    Freed process.replica (if cluster.isRegistered then [process.replica] else []) cluster
      (cluster.reap process ending) := by
  let others : LocalCluster :=
    { cluster with processes := cluster.processes.filter (·.number ≠ process.number) }
  have freed (completion : Completion) (same : completion.replica = process.replica) :
      Freed process.replica (if cluster.isRegistered then [process.replica] else []) cluster
        (others.finish completion) := by
    rw [← same]
    have freed := freed_finish others completion
    exact ⟨freed.placements, freed.granted, freed.grants, freed.ends⟩
  apply freed
  split
  · rfl
  · exact replica_completion ..

/-! ## Processes -/

section Processes

variable (cluster : LocalCluster) (event : ClusterEvent) (replica : String)

@[simp]
theorem nodes_emit : (cluster.emit event).nodes = cluster.nodes := by
  simp only [emit]
  split <;> rfl

@[simp]
theorem started_emit : (cluster.emit event).started = cluster.started := by
  simp only [emit]
  split <;> rfl

@[simp]
theorem nodes_pull : (cluster.pull replica).nodes = cluster.nodes := by
  simp only [pull]
  split <;> rfl

@[simp]
theorem started_pull : (cluster.pull replica).started = cluster.started := by
  simp only [pull]
  split <;> rfl

/-- Pulling a switch changes of the processes only whether they were told to stop. -/
theorem map_processes_pull {Value : Type} {read : ContainerProcess → Value}
    (blind : ∀ process, read { process with isKilled := true } = read process) :
    (cluster.pull replica).processes.map read = cluster.processes.map read := by
  simp only [pull]
  split
  · rfl
  · rw [List.map_map]
    apply List.map_congr_left
    intro process _
    simp only [Function.comp_apply]
    split
    · exact blind process
    · rfl

end Processes

/-- No two processes have one number, and the next number is new. -/
structure Numbered (cluster : LocalCluster) : Prop where
  distinct : (cluster.processes.map ContainerProcess.number).Nodup
  below : ∀ process ∈ cluster.processes, process.number < cluster.started

/-- A cluster with the same processes, and no fewer started before, is numbered. -/
theorem Numbered.of_map (numbered : before.Numbered)
    (numbers : after.processes.map ContainerProcess.number =
      before.processes.map ContainerProcess.number)
    (started : after.started = before.started) : after.Numbered where
  distinct := numbers ▸ numbered.distinct
  below := by
    intro process member
    have known : process.number ∈ before.processes.map ContainerProcess.number :=
      numbers ▸ List.mem_map_of_mem member
    rcases List.mem_map.mp known with ⟨other, present, same⟩
    rw [started, ← same]
    exact numbered.below other present

theorem Numbered.filter (numbered : cluster.Numbered) (keep : ContainerProcess → Bool) :
    Numbered { cluster with processes := cluster.processes.filter keep } where
  distinct := numbered.distinct.sublist (List.filter_sublist.map _)
  below process member := numbered.below process (List.mem_of_mem_filter member)

theorem Numbered.start (numbered : cluster.Numbered) (replica : String) :
    (cluster.start replica).Numbered := by
  have pulled : (cluster.pull replica).Numbered :=
    numbered.of_map (cluster.map_processes_pull replica fun _ => rfl) (by simp)
  constructor
  · simp only [LocalCluster.start, List.map_append, List.map_cons, List.map_nil]
    apply pulled.distinct.append (List.nodup_singleton _)
    intro number old new
    rcases List.mem_map.mp old with ⟨process, member, rfl⟩
    exact absurd (List.mem_singleton.mp new) (pulled.below process member).ne
  · intro process member
    rcases List.mem_append.mp member with old | new
    · exact Nat.lt_succ_of_lt (pulled.below process old)
    · rw [List.mem_singleton.mp new]
      exact Nat.lt_succ_self _

/-- The process that ends is the only one of its number. -/
theorem Numbered.perm_cons_filter (numbered : cluster.Numbered) {process : ContainerProcess}
    (member : process ∈ cluster.processes) :
    cluster.processes.Perm
      (process :: cluster.processes.filter (·.number ≠ process.number)) := by
  have distinct := numbered.distinct
  generalize cluster.processes = processes at distinct member
  induction processes with
  | nil => cases member
  | cons head rest ih =>
      rw [List.map_cons, List.nodup_cons] at distinct
      rcases List.mem_cons.mp member with rfl | later
      · have others : rest.filter (·.number ≠ process.number) = rest := by
          apply List.filter_eq_self.mpr
          intro other present
          rw [decide_eq_true_eq]
          intro same
          exact distinct.1 (same ▸ List.mem_map_of_mem present)
        rw [List.filter_cons_of_neg (by simp), others]
      · have different : head.number ≠ process.number := by
          intro same
          exact distinct.1 (same ▸ List.mem_map_of_mem later)
        rw [List.filter_cons_of_pos (by simpa using different)]
        exact ((ih distinct.2 later).cons head).trans (List.Perm.swap process head _)

/-- An operation that leaves the nodes and the processes as they are, but for whether these were
told to stop. -/
structure Steady (before after : LocalCluster) : Prop where
  nodes : after.nodes = before.nodes
  started : after.started = before.started
  numbers : after.processes.map ContainerProcess.number =
    before.processes.map ContainerProcess.number
  replicas : after.processes.map ContainerProcess.replica =
    before.processes.map ContainerProcess.replica

theorem Steady.refl (cluster : LocalCluster) : Steady cluster cluster := ⟨rfl, rfl, rfl, rfl⟩

theorem Steady.trans {reached : LocalCluster} (first : Steady before reached)
    (second : Steady reached after) : Steady before after :=
  ⟨second.nodes.trans first.nodes, second.started.trans first.started,
    second.numbers.trans first.numbers, second.replicas.trans first.replicas⟩

theorem steady_emit (cluster : LocalCluster) (event : ClusterEvent) :
    Steady cluster (cluster.emit event) :=
  ⟨nodes_emit .., started_emit .., by rw [processes_emit], by rw [processes_emit]⟩

theorem steady_pull (cluster : LocalCluster) (replica : String) :
    Steady cluster (cluster.pull replica) :=
  ⟨nodes_pull .., started_pull .., cluster.map_processes_pull replica fun _ => rfl,
    cluster.map_processes_pull replica fun _ => rfl⟩

theorem steady_places (cluster : LocalCluster) (granted : Nat)
    (placements : SortedMap PlacedContainer) :
    Steady cluster { cluster with granted := granted, placements := placements } :=
  ⟨rfl, rfl, rfl, rfl⟩

theorem steady_register (cluster : LocalCluster) : Steady cluster cluster.register.2 := by
  simp only [register]
  split <;> exact ⟨rfl, rfl, rfl, rfl⟩

theorem steady_unregister (cluster : LocalCluster) : Steady cluster cluster.unregister.2 := by
  have pulled : Steady cluster (cluster.switches.keys.foldl pull cluster) := by
    apply List.foldlRecOn (motive := Steady cluster)
    · exact Steady.refl cluster
    · intro reached steady replica _
      exact steady.trans (steady_pull reached replica)
  exact ⟨pulled.nodes, pulled.started, pulled.numbers, pulled.replicas⟩

theorem steady_request (cluster : LocalCluster) (request : AllocationRequest) :
    Steady cluster (cluster.request request).2 := by
  simp only [LocalCluster.request]
  split
  · split
    · exact ((steady_places ..).trans (steady_emit ..)).trans (steady_emit ..)
    · exact Steady.refl cluster
  · exact Steady.refl cluster

theorem steady_release (cluster : LocalCluster) (replica : String) :
    Steady cluster (cluster.release replica).2 := by
  simp only [release]
  split
  · exact ((steady_places ..).trans (steady_pull ..)).trans (steady_emit ..)
  · exact Steady.refl cluster

theorem steady_finish (cluster : LocalCluster) (completion : Completion) :
    Steady cluster (cluster.finish completion) := by
  have pulled := (steady_places cluster cluster.granted
    (cluster.placements.erase completion.replica)).trans (steady_pull _ completion.replica)
  exact (pulled.trans (steady_emit ..)).trans (steady_emit ..)

theorem Numbered.steady (numbered : before.Numbered) (steady : Steady before after) :
    after.Numbered :=
  numbered.of_map steady.numbers steady.started

end LocalCluster

end Fleet
