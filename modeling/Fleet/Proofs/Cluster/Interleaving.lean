import Fleet.Proofs.Cluster.Operations
import Mathlib.Data.List.Induction

/-!
# A local cluster in shared use

Calls of a local cluster overlap. A launch looks for the place of its container, then makes the logs
and starts the process. A stop of a container without a switch looks for its place, then reports its
end. Other calls may come in between, and processes end at any time. Every interleaving is a
sequence of uses, each of which is done at once.

Nobody receives events here, so that the cluster keeps all that it ever sent.
-/

namespace Fleet

/-- What can happen to a local cluster in shared use. -/
inductive ClusterUse where
  | register
  | unregister
  | request (request : AllocationRequest)
  | release (replica : String)
  /-- A launch looks for the place of its container. -/
  | launch (replica : String)
  /-- A launch starts the process. -/
  | start (replica : String)
  /-- A launch fails, since no logs could be made. -/
  | abandon (replica : String)
  /-- A stop reaches the process, or else looks for the place of its container. -/
  | stop (replica : String)
  /-- A stop that reached no process reports the end of its container. -/
  | report (replica : String)
  | exit (number : Nat) (ending : ProcessEnding)
  deriving DecidableEq

/-- A local cluster with the calls that are under way. -/
structure SharedCluster where
  cluster : LocalCluster
  /-- The containers of the launches that found a place and have started no process yet. -/
  launches : List String := []
  /-- The containers of the stops that found a place and have reported no end yet. -/
  stops : List String := []

namespace SharedCluster

/-- A cluster that nobody has used yet. -/
def onNodes (nodes : List NodeConfig) : SharedCluster where
  cluster := { nodes := nodes }

/-- The cluster after something happened. -/
def take (site : SharedCluster) : ClusterUse → SharedCluster
  | .register => { site with cluster := site.cluster.register.2 }
  | .unregister => { site with cluster := site.cluster.unregister.2 }
  | .request request => { site with cluster := (site.cluster.request request).2 }
  | .release replica => { site with cluster := (site.cluster.release replica).2 }
  | .launch replica =>
      if site.cluster.placements.contains replica then
        { site with launches := replica :: site.launches }
      else site
  | .start replica =>
      if replica ∈ site.launches then
        { site with
          cluster := site.cluster.start replica
          launches := site.launches.erase replica }
      else site
  | .abandon replica => { site with launches := site.launches.erase replica }
  | .stop replica =>
      if site.cluster.switches.contains replica then
        { site with cluster := site.cluster.pull replica }
      else if site.cluster.placements.contains replica then
        { site with stops := replica :: site.stops }
      else site
  | .report replica =>
      if replica ∈ site.stops then
        { site with
          cluster := site.cluster.reportStopped replica
          stops := site.stops.erase replica }
      else site
  | .exit number ending =>
      match site.cluster.processes.find? (·.number = number) with
      | some process => { site with cluster := site.cluster.reap process ending }
      | none => site

/-- The cluster after several things happened, in their order. -/
def after (site : SharedCluster) (uses : List ClusterUse) : SharedCluster := uses.foldl take site

variable {site : SharedCluster} {id : String}

theorem after_concat (site : SharedCluster) (uses : List ClusterUse) (use : ClusterUse) :
    site.after (uses ++ [use]) = (site.after uses).take use :=
  List.foldl_concat ..

/-! ## Calls that nothing comes between -/

theorem take_launch_start (absent : id ∉ site.launches) :
    (site.take (.launch id)).take (.start id) =
      { site with cluster := (site.cluster.launch id (.ok ())).2 } := by
  by_cases placed : site.cluster.placements.contains id = true
  · simp [take, placed, LocalCluster.launch_of_placed placed]
  · simp [take, placed, absent, LocalCluster.launch_of_not_placed placed]

theorem take_launch_abandon (absent : id ∉ site.launches) (reason : String) :
    (site.take (.launch id)).take (.abandon id) =
      { site with cluster := (site.cluster.launch id (.error reason)).2 } := by
  rw [LocalCluster.launch_of_error]
  by_cases placed : site.cluster.placements.contains id = true
  · simp [take, placed]
  · simp [take, placed, List.erase_of_not_mem absent]

theorem take_stop_report (absent : id ∉ site.stops) :
    (site.take (.stop id)).take (.report id) =
      { site with cluster := (site.cluster.stop id).2 } := by
  by_cases launched : site.cluster.switches.contains id = true
  · simp [take, LocalCluster.stop, launched, absent]
  · by_cases placed : site.cluster.placements.contains id = true
    · simp [take, LocalCluster.stop, launched, placed, LocalCluster.reportStopped]
    · simp [take, LocalCluster.stop, launched, placed, absent]

/-! ## What is out -/

/-- The containers of the calls that are under way and of the processes. -/
def busy (site : SharedCluster) : List String :=
  site.launches ++ site.stops ++ site.cluster.processes.map ContainerProcess.replica

/-- How many calls and processes are out for a container. -/
def outstanding (site : SharedCluster) (id : String) : Nat := site.busy.count id

/-- How often the end of a container was reported. -/
def reports (site : SharedCluster) (id : String) : Nat := site.cluster.queuedEnds.count id

/-- The container for which a use is the first part of a call that will go on. -/
def taken? (site : SharedCluster) : ClusterUse → Option String
  | .launch replica => if site.cluster.placements.contains replica then some replica else none
  | .stop replica =>
      if site.cluster.switches.contains replica then none
      else if site.cluster.placements.contains replica then some replica
      else none
  | _ => none

/-! ## What a use does -/

open LocalCluster

/-- What a use does to the processes: it starts one, or removes some that ended, or leaves them. -/
theorem take_cases (site : SharedCluster) (use : ClusterUse) :
    Steady site.cluster (site.take use).cluster ∨
      (∃ replica, (site.take use).cluster = site.cluster.start replica) ∨
      ∃ keep, Steady { site.cluster with processes := site.cluster.processes.filter keep }
        (site.take use).cluster := by
  cases use with
  | register => exact Or.inl (steady_register _)
  | unregister => exact Or.inl (steady_unregister _)
  | request request => exact Or.inl (steady_request ..)
  | release replica => exact Or.inl (steady_release ..)
  | launch replica =>
      simp only [take]
      split <;> exact Or.inl (Steady.refl _)
  | start replica =>
      simp only [take]
      split
      · exact Or.inr (Or.inl ⟨replica, rfl⟩)
      · exact Or.inl (Steady.refl _)
  | abandon replica => exact Or.inl (Steady.refl _)
  | stop replica =>
      simp only [take]
      split
      · exact Or.inl (steady_pull ..)
      · split <;> exact Or.inl (Steady.refl _)
  | report replica =>
      simp only [take]
      split
      · exact Or.inl (steady_finish ..)
      · exact Or.inl (Steady.refl _)
  | exit number ending =>
      simp only [take]
      split
      · exact Or.inr (Or.inr ⟨_, steady_finish ..⟩)
      · exact Or.inl (Steady.refl _)

theorem nodes_take (site : SharedCluster) (use : ClusterUse) :
    (site.take use).cluster.nodes = site.cluster.nodes := by
  rcases site.take_cases use with steady | ⟨replica, started⟩ | ⟨keep, steady⟩
  · exact steady.nodes
  · rw [started]
    exact nodes_pull ..
  · exact steady.nodes

theorem numbered_take (numbered : site.cluster.Numbered) (use : ClusterUse) :
    (site.take use).cluster.Numbered := by
  rcases site.take_cases use with steady | ⟨replica, started⟩ | ⟨keep, steady⟩
  · exact numbered.steady steady
  · rw [started]
    exact numbered.start replica
  · exact (numbered.filter keep).steady steady

/-- All that a use can do: to the places, to what was told of them, and to what is out. -/
inductive Turn (site : SharedCluster) (use : ClusterUse) : Prop
  | kept (cluster : Kept site.cluster (site.take use).cluster)
      (busy : (site.take use).busy.Perm site.busy) (none : site.taken? use = none)
  | housed {request : AllocationRequest} {node : NodeConfig} {position : Nat}
      (registered : site.cluster.isRegistered = true)
      (cluster : Housed request node position site.cluster (site.take use).cluster)
      (busy : (site.take use).busy.Perm site.busy) (none : site.taken? use = none)
  | released (id : String) (cluster : Freed id [] site.cluster (site.take use).cluster)
      (busy : (site.take use).busy.Perm site.busy) (none : site.taken? use = none)
  | takenOn (id : String) (cluster : Kept site.cluster (site.take use).cluster)
      (busy : (site.take use).busy.Perm (id :: site.busy)) (some : site.taken? use = some id)
      (placed : id ∈ site.cluster.placements.keys)
  | abandoned (id : String) (cluster : Kept site.cluster (site.take use).cluster)
      (busy : site.busy.Perm (id :: (site.take use).busy)) (none : site.taken? use = none)
      (abandons : use = .abandon id)
  | ended (id : String)
      (cluster : Freed id (if site.cluster.isRegistered then [id] else []) site.cluster
        (site.take use).cluster)
      (busy : site.busy.Perm (id :: (site.take use).busy)) (none : site.taken? use = none)

/-- Calls that are under way, and processes, are the same ones. -/
theorem perm_busy {before after : SharedCluster} (launches : after.launches = before.launches)
    (stops : after.stops = before.stops) (steady : Steady before.cluster after.cluster) :
    after.busy.Perm before.busy := by
  rw [busy, busy, launches, stops, steady.replicas]

theorem turn_launch (site : SharedCluster) (replica : String) : site.Turn (.launch replica) := by
  by_cases placed : site.cluster.placements.contains replica = true
  · refine .takenOn replica ?_ ?_ ?_ (SortedMap.contains_iff_mem_keys.mp placed)
    · simp only [take, if_pos placed]
      exact Kept.refl _
    · simp [take, placed, busy]
    · simp [taken?, placed]
  · refine .kept ?_ ?_ ?_
    · simp only [take, if_neg placed]
      exact Kept.refl _
    · simp [take, placed]
    · simp [taken?, placed]

theorem turn_start (site : SharedCluster) (replica : String) : site.Turn (.start replica) := by
  by_cases out : replica ∈ site.launches
  · refine .kept ?_ ?_ rfl
    · simp only [take, if_pos out]
      exact kept_start ..
    · have processes : (site.cluster.start replica).processes.map ContainerProcess.replica =
          site.cluster.processes.map ContainerProcess.replica ++ [replica] := by
        simp only [LocalCluster.start, List.map_append, (steady_pull ..).replicas]
        rfl
      simp only [take, if_pos out, busy, processes, ← List.append_assoc]
      apply (List.perm_append_singleton replica _).trans
      simp only [← List.cons_append]
      exact ((List.perm_cons_erase out).symm.append_right _).append_right _
  · refine .kept ?_ ?_ rfl
    · simp only [take, if_neg out]
      exact Kept.refl _
    · simp [take, out]

theorem turn_abandon (site : SharedCluster) (replica : String) :
    site.Turn (.abandon replica) := by
  by_cases out : replica ∈ site.launches
  · refine .abandoned replica (Kept.refl _) ?_ rfl rfl
    simp only [take, busy, List.append_assoc]
    exact (List.perm_cons_erase out).append_right _
  · refine .kept (Kept.refl _) ?_ rfl
    simp [take, busy, List.erase_of_not_mem out]

theorem turn_stop (site : SharedCluster) (replica : String) : site.Turn (.stop replica) := by
  by_cases launched : site.cluster.switches.contains replica = true
  · refine .kept ?_ ?_ ?_
    · simp only [take, if_pos launched]
      exact kept_pull ..
    · simp only [take, if_pos launched]
      exact perm_busy rfl rfl (steady_pull ..)
    · simp [taken?, launched]
  · by_cases placed : site.cluster.placements.contains replica = true
    · refine .takenOn replica ?_ ?_ ?_ (SortedMap.contains_iff_mem_keys.mp placed)
      · simp only [take, if_neg launched, if_pos placed]
        exact Kept.refl _
      · simp [take, launched, placed, busy]
      · simp [taken?, launched, placed]
    · refine .kept ?_ ?_ ?_
      · simp only [take, if_neg launched, if_neg placed]
        exact Kept.refl _
      · simp [take, launched, placed]
      · simp [taken?, launched, placed]

theorem turn_report (site : SharedCluster) (replica : String) : site.Turn (.report replica) := by
  by_cases out : replica ∈ site.stops
  · refine .ended replica ?_ ?_ rfl
    · simp only [take, if_pos out]
      exact freed_finish site.cluster (stoppedCompletion replica "stopped before launch")
    · have replicas := (steady_finish site.cluster
        (stoppedCompletion replica "stopped before launch")).replicas
      simp only [take, if_pos out, busy, reportStopped, replicas]
      rw [← List.cons_append]
      apply List.Perm.append_right
      exact ((List.perm_cons_erase out).append_left _).trans List.perm_middle
  · refine .kept ?_ ?_ rfl
    · simp only [take, if_neg out]
      exact Kept.refl _
    · simp [take, out]

theorem turn_exit (numbered : site.cluster.Numbered) (number : Nat) (ending : ProcessEnding) :
    site.Turn (.exit number ending) := by
  cases found : site.cluster.processes.find? (·.number = number) with
  | none =>
      refine .kept ?_ ?_ rfl
      · simp only [take, found]
        exact Kept.refl _
      · simp [take, found]
  | some process =>
      refine .ended process.replica ?_ ?_ rfl
      · simp only [take, found]
        exact freed_reap ..
      · have replicas := (steady_finish
          { site.cluster with
            processes := site.cluster.processes.filter (·.number ≠ process.number) }
          (if process.isKilled then stoppedCompletion process.replica "stopped"
            else ending.completion process.replica)).replicas
        have others := (numbered.perm_cons_filter (List.mem_of_find?_eq_some found)).map
          ContainerProcess.replica
        simp only [take, found, busy, reap, replicas]
        exact (others.append_left _).trans List.perm_middle

theorem turn (numbered : site.cluster.Numbered) (use : ClusterUse) : site.Turn use := by
  cases use with
  | register => exact .kept (kept_register _) (perm_busy rfl rfl (steady_register _)) rfl
  | unregister => exact .kept (kept_unregister _) (perm_busy rfl rfl (steady_unregister _)) rfl
  | request request =>
      have busy : (site.take (.request request)).busy.Perm site.busy :=
        perm_busy rfl rfl (steady_request ..)
      rcases site.cluster.request_cases request with same | ⟨registered, node, position, housed⟩
      · exact .kept (same ▸ Kept.refl _) busy rfl
      · exact .housed registered housed busy rfl
  | release replica =>
      have busy : (site.take (.release replica)).busy.Perm site.busy :=
        perm_busy rfl rfl (steady_release ..)
      rcases site.cluster.release_cases replica with same | freed
      · exact .kept (same ▸ Kept.refl _) busy rfl
      · exact .released replica freed busy rfl
  | launch replica => exact site.turn_launch replica
  | start replica => exact site.turn_start replica
  | abandon replica => exact site.turn_abandon replica
  | stop replica => exact site.turn_stop replica
  | report replica => exact site.turn_report replica
  | exit number ending => exact turn_exit numbered number ending

/-! ## Runs -/

/-- What a cluster knows of was granted by it, each grant has a new name, and a container whose end
was reported has no place. -/
structure Known (site : SharedCluster) : Prop where
  placed : ∀ id ∈ site.cluster.placements.keys, site.cluster.Named id
  busy : ∀ id ∈ site.busy, site.cluster.Named id
  granted : ∀ id ∈ site.cluster.queuedGrants, site.cluster.Named id
  distinct : site.cluster.queuedGrants.Nodup
  ended : ∀ id ∈ site.cluster.queuedEnds,
    site.cluster.Named id ∧ id ∉ site.cluster.placements.keys

namespace Known

theorem onNodes (nodes : List NodeConfig) : (SharedCluster.onNodes nodes).Known where
  placed _ member := absurd member List.not_mem_nil
  busy _ member := absurd member List.not_mem_nil
  granted _ member := absurd member List.not_mem_nil
  distinct := List.nodup_nil
  ended _ member := absurd member List.not_mem_nil

/-- A change without a grant keeps what is known, if it frees no place but those of containers that
have their name, and reports the ends of such containers only after it freed their places. -/
theorem change {before after : SharedCluster} {reported : List String} (known : before.Known)
    (granted : after.cluster.granted = before.cluster.granted)
    (grants : after.cluster.queuedGrants = before.cluster.queuedGrants)
    (ends : after.cluster.queuedEnds = before.cluster.queuedEnds ++ reported)
    (fewer : ∀ id ∈ after.cluster.placements.keys, id ∈ before.cluster.placements.keys)
    (busy : ∀ id ∈ after.busy, before.cluster.Named id)
    (gone : ∀ id ∈ reported, before.cluster.Named id ∧ id ∉ after.cluster.placements.keys) :
    after.Known := by
  have named {id : String} (named : before.cluster.Named id) : after.cluster.Named id :=
    named.of_le granted.ge
  refine ⟨?_, ?_, ?_, ?_, ?_⟩
  · intro id placed
    exact named (known.placed id (fewer id placed))
  · intro id out
    exact named (busy id out)
  · rw [grants]
    intro id queued
    exact named (known.granted id queued)
  · rw [grants]
    exact known.distinct
  · rw [ends]
    intro id ended
    rcases List.mem_append.mp ended with old | new
    · have before := known.ended id old
      exact ⟨named before.1, fun placed => before.2 (fewer id placed)⟩
    · exact (gone id new).imp_left named

theorem kept {before after : SharedCluster} (known : before.Known)
    (cluster : Kept before.cluster after.cluster)
    (busy : ∀ id ∈ after.busy, before.cluster.Named id) : after.Known := by
  apply known.change cluster.granted cluster.grants
    (cluster.ends.trans (List.append_nil _).symm) ?_ busy
  · intro id member
    exact absurd member List.not_mem_nil
  · rw [cluster.placements]
    exact fun _ placed => placed

theorem freed {before after : SharedCluster} {reported : List String} (known : before.Known)
    (cluster : Freed id reported before.cluster after.cluster)
    (busy : ∀ other ∈ after.busy, before.cluster.Named other)
    (named : ∀ other ∈ reported, other = id ∧ before.cluster.Named id) : after.Known := by
  apply known.change cluster.granted cluster.grants cluster.ends ?_ busy
  · intro other member
    obtain ⟨rfl, named⟩ := named other member
    rw [cluster.placements, SortedMap.mem_keys_erase]
    exact ⟨named, fun still => still.1 rfl⟩
  · intro other placed
    rw [cluster.placements, SortedMap.mem_keys_erase] at placed
    exact placed.2

theorem housed {before after : SharedCluster} {request : AllocationRequest} {node : NodeConfig}
    {position : Nat} (known : before.Known)
    (cluster : Housed request node position before.cluster after.cluster)
    (busy : ∀ id ∈ after.busy, before.cluster.Named id) : after.Known := by
  have unnamed := before.cluster.not_named_next
  have new : after.cluster.Named (containerName (before.cluster.granted + 1)) :=
    ⟨before.cluster.granted + 1, by omega, cluster.granted.ge, rfl⟩
  have named {id : String} (named : before.cluster.Named id) : after.cluster.Named id := by
    apply named.of_le
    rw [cluster.granted]
    omega
  refine ⟨?_, ?_, ?_, ?_, ?_⟩
  · intro id placed
    rw [cluster.placements, SortedMap.mem_keys_insert] at placed
    rcases placed with rfl | old
    · exact new
    · exact named (known.placed id old)
  · intro id out
    exact named (busy id out)
  · rw [cluster.grants]
    intro id queued
    rcases List.mem_append.mp queued with old | this
    · exact named (known.granted id old)
    · rw [List.mem_singleton.mp this]
      exact new
  · rw [cluster.grants]
    apply known.distinct.append (List.nodup_singleton _)
    intro id old this
    rw [List.mem_singleton.mp this] at old
    exact unnamed (known.granted _ old)
  · rw [cluster.ends]
    intro id ended
    have before := known.ended id ended
    refine ⟨named before.1, ?_⟩
    rw [cluster.placements, SortedMap.mem_keys_insert]
    rintro (rfl | still)
    · exact unnamed before.1
    · exact before.2 still

theorem take (known : site.Known) (numbered : site.cluster.Numbered) (use : ClusterUse) :
    (site.take use).Known := by
  cases turn numbered use with
  | kept cluster busy => exact known.kept cluster fun id out => known.busy id (busy.subset out)
  | housed registered cluster busy =>
      exact known.housed cluster fun id out => known.busy id (busy.subset out)
  | released id cluster busy =>
      apply known.freed cluster fun id out => known.busy id (busy.subset out)
      intro other member
      exact absurd member List.not_mem_nil
  | takenOn id cluster busy _ placed =>
      apply known.kept cluster
      intro other out
      rcases List.mem_cons.mp (busy.subset out) with rfl | old
      · exact known.placed other placed
      · exact known.busy other old
  | abandoned id cluster busy =>
      apply known.kept cluster
      intro other out
      exact known.busy other (busy.symm.subset (List.mem_cons_of_mem _ out))
  | ended id cluster busy =>
      apply known.freed cluster
      · intro other out
        exact known.busy other (busy.symm.subset (List.mem_cons_of_mem _ out))
      · intro other member
        split at member
        · exact ⟨List.mem_singleton.mp member, known.busy _ (busy.symm.subset List.mem_cons_self)⟩
        · exact absurd member List.not_mem_nil

end Known

theorem numbered_after (nodes : List NodeConfig) (uses : List ClusterUse) :
    ((onNodes nodes).after uses).cluster.Numbered := by
  induction uses using List.reverseRecOn with
  | nil => exact ⟨List.nodup_nil, fun _ member => absurd member List.not_mem_nil⟩
  | append_singleton uses use ih =>
      rw [after_concat]
      exact numbered_take ih use

theorem nodes_after (nodes : List NodeConfig) (uses : List ClusterUse) :
    ((onNodes nodes).after uses).cluster.nodes = nodes := by
  induction uses using List.reverseRecOn with
  | nil => rfl
  | append_singleton uses use ih => rw [after_concat, nodes_take, ih]

theorem known_after (nodes : List NodeConfig) (uses : List ClusterUse) :
    ((onNodes nodes).after uses).Known := by
  induction uses using List.reverseRecOn with
  | nil => exact Known.onNodes nodes
  | append_singleton uses use ih =>
      rw [after_concat]
      exact ih.take (numbered_after nodes uses) use

theorem turn_after (nodes : List NodeConfig) (uses : List ClusterUse) (use : ClusterUse) :
    ((onNodes nodes).after uses).Turn use :=
  turn (numbered_after nodes uses) use

end SharedCluster

end Fleet
