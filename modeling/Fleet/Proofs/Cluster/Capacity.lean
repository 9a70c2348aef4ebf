import Fleet.Proofs.Capability
import Fleet.Proofs.Cluster.Interleaving
import Mathlib.Algebra.Order.BigOperators.Group.List
import Mathlib.Algebra.Order.Group.Nat

/-!
# Places within capacity

A node is never given more than it offers. What is admitted is decided with saturated sums and
differences, but as long as the containers of a node fit into it nothing is saturated: their exact
sum is at most a capability, so that the saturated one is the same, and what fits into the rest of
the node can be added. The rest of all nodes is their sum less what is placed, then.
-/

namespace Fleet

namespace LocalCluster

variable {cluster before after : LocalCluster} {id : String}

/-- The exact sum of what the containers on a node use. -/
def load (cluster : LocalCluster) (position : Nat) (kind : Resource) : Nat :=
  ((cluster.containersOn position).map fun placed => placed.resources.amount kind).sum

/-- The exact sum of what all containers use. -/
def totalLoad (cluster : LocalCluster) (kind : Resource) : Nat :=
  (cluster.placements.values.map fun placed => placed.resources.amount kind).sum

/-- The exact sum of what all nodes offer. -/
def offered (cluster : LocalCluster) (kind : Resource) : Nat :=
  (cluster.nodes.map fun node => node.capability.amount kind).sum

/-- Every container is on a node, apart from others with its tag, and no node has more than it
offers. -/
structure WithinCapacity (cluster : LocalCluster) : Prop where
  onNodes : ∀ placed ∈ cluster.placements.values, placed.node < cluster.nodes.length
  apart : ∀ first second placed other, cluster.placements.get? first = some placed →
    cluster.placements.get? second = some other → placed.node = other.node →
    placed.tag = other.tag → first = second
  fits : ∀ position node, cluster.nodes[position]? = some node →
    ∀ kind, cluster.load position kind ≤ node.capability.amount kind

/-! ## Saturated and exact sums -/

theorem amount_usedOn (cluster : LocalCluster) (position : Nat) (kind : Resource) :
    (cluster.usedOn position).amount kind = min (cluster.load position kind) kind.limit := by
  simp only [usedOn, Capability.amount_foldl_add, Capability.amount_default, Nat.zero_add, load]

/-- Where the containers of a node fit, what is left of it is the difference of what it offers and
what they use. -/
theorem amount_freeOn {node : NodeConfig} {position : Nat} {kind : Resource}
    (fits : cluster.load position kind ≤ node.capability.amount kind) :
    (cluster.freeOn node position).amount kind =
      node.capability.amount kind - cluster.load position kind := by
  have within := node.capability.amount_le_limit kind
  rw [freeOn, Capability.amount_subtract, amount_usedOn]
  omega

theorem canHost_iff {request : AllocationRequest} {node : NodeConfig} {position : Nat} :
    cluster.canHost request node position = true ↔
      (∀ placed ∈ cluster.containersOn position, placed.tag ≠ request.placement.tag) ∧
        ∀ kind, request.capability.amount kind ≤
          (cluster.freeOn node position).amount kind := by
  simp [canHost, Capability.fits_iff]

theorem mem_containersOn {position : Nat} {placed : PlacedContainer} :
    placed ∈ cluster.containersOn position ↔
      placed ∈ cluster.placements.values ∧ placed.node = position := by
  simp [containersOn]

theorem mem_values_of_get? {placed : PlacedContainer}
    (found : cluster.placements.get? id = some placed) : placed ∈ cluster.placements.values :=
  List.mem_map.mpr ⟨(id, placed), SortedMap.mem_entries_iff.mpr found, rfl⟩

/-- Each container is counted on one node, its own. -/
theorem sum_loads (within : cluster.WithinCapacity) (kind : Resource) :
    ((List.range' 0 cluster.nodes.length).map fun position => cluster.load position kind).sum =
      cluster.totalLoad kind := by
  have onNodes := within.onNodes
  simp only [load, totalLoad, containersOn]
  generalize cluster.placements.values = values at onNodes
  induction values with
  | nil => simp
  | cons placed rest ih =>
      have split (position : Nat) :
          (((placed :: rest).filter (·.node = position)).map (·.resources.amount kind)).sum =
            (if position = placed.node then placed.resources.amount kind else 0) +
              ((rest.filter (·.node = position)).map (·.resources.amount kind)).sum := by
        by_cases here : placed.node = position
        · simp [here]
        · simp [here, Ne.symm here]
      have once : ((List.range' 0 cluster.nodes.length).map fun position =>
          if position = placed.node then placed.resources.amount kind else 0).sum =
            placed.resources.amount kind := by
        rw [List.sum_map_eq_nsmul_single placed.node _ (by simp +contextual)]
        have member : placed.node ∈ List.range' 0 cluster.nodes.length := by
          simpa using onNodes placed List.mem_cons_self
        rw [List.count_eq_one_of_mem List.nodup_range' member, if_pos rfl, one_nsmul]
      simp only [split, List.sum_map_add, once, List.map_cons, List.sum_cons]
      rw [ih fun other member => onNodes other (List.mem_cons_of_mem _ member)]

/-- What is available and what is placed make up what the nodes offer, if their sum can be
counted. -/
theorem available_add_totalLoad (within : cluster.WithinCapacity) (kind : Resource)
    (counted : cluster.offered kind ≤ kind.limit) :
    cluster.available.amount kind + cluster.totalLoad kind = cluster.offered kind := by
  have parts : (cluster.nodes.zipIdx.map fun entry =>
      (cluster.freeOn entry.1 entry.2).amount kind).sum + cluster.totalLoad kind =
        cluster.offered kind := by
    have loads : cluster.totalLoad kind =
        (cluster.nodes.zipIdx.map fun entry => cluster.load entry.2 kind).sum := by
      rw [← sum_loads within, ← List.zipIdx_map_snd 0 cluster.nodes, List.map_map]
      rfl
    have offers : cluster.offered kind =
        (cluster.nodes.zipIdx.map fun entry => entry.1.capability.amount kind).sum := by
      conv_lhs => rw [offered, ← List.zipIdx_map_fst 0 cluster.nodes, List.map_map]
      rfl
    rw [loads, offers, ← List.sum_map_add]
    congr 1
    apply List.map_congr_left
    intro entry member
    have fits := within.fits entry.2 entry.1 (List.mem_zipIdx_iff_getElem?.mp member) kind
    rw [amount_freeOn fits]
    omega
  have sum := Capability.amount_foldl_add cluster.nodes.zipIdx
    (fun entry => cluster.freeOn entry.1 entry.2) {} kind
  rw [Capability.amount_default, Nat.zero_add] at sum
  change cluster.available.amount kind = _ at sum
  omega

/-! ## What keeps within capacity -/

theorem load_eq_of_placements (same : after.placements = before.placements) (position : Nat)
    (kind : Resource) : after.load position kind = before.load position kind := by
  rw [load, containersOn, same, load, containersOn]

namespace WithinCapacity

theorem onNodesOnly (nodes : List NodeConfig) : WithinCapacity { nodes := nodes } where
  onNodes _ member := absurd member List.not_mem_nil
  apart _ _ _ _ found := by cases found
  fits _ _ _ _ := Nat.zero_le _

theorem kept (within : before.WithinCapacity) (nodes : after.nodes = before.nodes)
    (kept : Kept before after) : after.WithinCapacity := by
  constructor
  · rw [kept.placements, nodes]
    exact within.onNodes
  · rw [kept.placements]
    exact within.apart
  · intro position node found kind
    rw [nodes] at found
    rw [load_eq_of_placements kept.placements]
    exact within.fits position node found kind

theorem freed {reported : List String} (within : before.WithinCapacity)
    (nodes : after.nodes = before.nodes) (freed : Freed id reported before after) :
    after.WithinCapacity := by
  have fewer : after.placements.values.Sublist before.placements.values := by
    rw [freed.placements]
    exact SortedMap.values_erase_sublist ..
  have held {name : String} {placed : PlacedContainer}
      (found : after.placements.get? name = some placed) :
      before.placements.get? name = some placed := by
    rw [freed.placements, SortedMap.get?_erase] at found
    split at found
    · cases found
    · exact found
  constructor
  · rw [nodes]
    exact fun placed member => within.onNodes placed (fewer.subset member)
  · intro first second placed other here there
    exact within.apart first second placed other (held here) (held there)
  · intro position node found kind
    rw [nodes] at found
    have less : after.load position kind ≤ before.load position kind :=
      ((fewer.filter _).map _).sum_le_sum fun _ _ => Nat.zero_le _
    exact less.trans (within.fits position node found kind)

/-- A container that a node can host is placed apart and within what the node offers. -/
theorem housed {request : AllocationRequest} {node : NodeConfig} {position : Nat}
    (within : before.WithinCapacity) (nodes : after.nodes = before.nodes)
    (housed : Housed request node position before after)
    (absent : before.placements.contains (containerName (before.granted + 1)) = false) :
    after.WithinCapacity := by
  have can := canHost_iff.mp housed.canHost
  let new : PlacedContainer := ⟨position, request.placement.tag, request.capability⟩
  have values : after.placements.values.Perm (new :: before.placements.values) := by
    rw [housed.placements]
    exact SortedMap.values_insert_perm absent new
  -- A container with the node of the new one was there before, and so has another tag.
  have alone {name : String} {placed : PlacedContainer}
      (found : before.placements.get? name = some placed) (node : placed.node = position) :
      placed.tag ≠ request.placement.tag :=
    can.1 placed (mem_containersOn.mpr ⟨mem_values_of_get? found, node⟩)
  constructor
  · intro placed member
    rw [nodes]
    rcases List.mem_cons.mp (values.subset member) with rfl | old
    · exact (List.getElem?_eq_some_iff.mp housed.found).1
    · exact within.onNodes placed old
  · intro first second placed other here there sameNode sameTag
    rw [housed.placements, SortedMap.get?_insert] at here there
    split at here
    · next firstNew =>
        split at there
        · next secondNew => rw [firstNew, secondNew]
        · obtain rfl := Option.some.inj here
          exact absurd sameTag.symm (alone there sameNode.symm)
    · split at there
      · obtain rfl := Option.some.inj there
        exact absurd sameTag (alone here sameNode)
      · exact within.apart first second placed other here there sameNode sameTag
  · intro index candidate found kind
    rw [nodes] at found
    have fits := within.fits index candidate found kind
    have load : after.load index kind =
        (if position = index then request.capability.amount kind else 0) +
          before.load index kind := by
      have sums := ((values.filter (·.node = index)).map (·.resources.amount kind)).sum_eq
      rw [LocalCluster.load, containersOn, sums]
      by_cases here : position = index
      · simp [new, here, LocalCluster.load, containersOn]
      · simp [new, here, LocalCluster.load, containersOn]
    rw [load]
    split
    · next here =>
        subst here
        obtain rfl := Option.some.inj (housed.found.symm.trans found)
        have room := can.2 kind
        rw [amount_freeOn fits] at room
        omega
    · omega

end WithinCapacity

end LocalCluster

namespace SharedCluster

open LocalCluster

theorem withinCapacity_after (nodes : List NodeConfig) (uses : List ClusterUse) :
    ((onNodes nodes).after uses).cluster.WithinCapacity := by
  induction uses using List.reverseRecOn with
  | nil => exact WithinCapacity.onNodesOnly nodes
  | append_singleton uses use ih =>
      have known := known_after nodes uses
      have sameNodes := nodes_take ((onNodes nodes).after uses) use
      rw [after_concat]
      cases turn_after nodes uses use with
      | kept cluster => exact ih.kept sameNodes cluster
      | housed registered cluster =>
          apply ih.housed sameNodes cluster
          rw [SortedMap.contains_eq_false_iff]
          exact fun placed => LocalCluster.not_named_next _ (known.placed _ placed)
      | released _ cluster => exact ih.freed sameNodes cluster
      | takenOn _ cluster => exact ih.kept sameNodes cluster
      | abandoned _ cluster => exact ih.kept sameNodes cluster
      | ended _ cluster => exact ih.freed sameNodes cluster

/-- Placement is safe. However a local cluster is used: on no node two containers have one tag; on
every node the exact sum of what its containers use is at most what it offers, of each kind; no two
grants have one name; and wherever what the nodes offer together can be counted, what is available
is exactly that less what is placed. -/
theorem placement_is_safe (nodes : List NodeConfig) (uses : List ClusterUse) :
    let cluster := ((onNodes nodes).after uses).cluster
    (∀ first second placed other, cluster.placements.get? first = some placed →
      cluster.placements.get? second = some other → placed.node = other.node →
      placed.tag = other.tag → first = second) ∧
    (∀ position node, nodes[position]? = some node →
      ∀ kind, cluster.load position kind ≤ node.capability.amount kind) ∧
    cluster.queuedGrants.Nodup ∧
    ∀ kind, (nodes.map fun node => node.capability.amount kind).sum ≤ kind.limit →
      cluster.available.amount kind + cluster.totalLoad kind =
        (nodes.map fun node => node.capability.amount kind).sum := by
  intro cluster
  have within := withinCapacity_after nodes uses
  have sameNodes := nodes_after nodes uses
  refine ⟨within.apart, ?_, (known_after nodes uses).distinct, ?_⟩
  · intro position node found
    exact within.fits position node (by rwa [sameNodes])
  · intro kind counted
    have sum := available_add_totalLoad within kind
    rw [offered, sameNodes] at sum
    exact sum counted

/-- Two small nodes. -/
def smallNodes : List NodeConfig :=
  [{ memory := 100, processors := 4, accelerators := 2 },
    { memory := 80, processors := 4, accelerators := 1 }]

/-- A request for some memory, a processor and an accelerator under a tag. -/
def requestFor (memory : UInt64) (tag : String) : ClusterUse :=
  .request ⟨0, ⟨memory, 1, 1⟩, ⟨tag⟩⟩

/-- Of five requests the third is denied, for its tag, and so is the fourth, for its memory. The
first container is launched and ends, and the fifth takes its place. -/
def busyUses : List ClusterUse :=
  [.register, requestFor 60 "a", requestFor 60 "a", requestFor 10 "a", requestFor 50 "b",
    .launch (containerName 1), .start (containerName 1), .stop (containerName 1),
    .exit 0 (.exited 0), requestFor 100 "b"]

theorem small_nodes_filled :
    let cluster := ((onNodes smallNodes).after busyUses).cluster
    cluster.placements.keys = [containerName 2, containerName 3] ∧
      cluster.load 0 .memory = 100 ∧ cluster.load 0 .memory ≤ 100 ∧
      cluster.available.amount .memory + cluster.totalLoad .memory = 180 := by
  intro cluster
  have safe := placement_is_safe smallNodes busyUses
  refine ⟨by decide +kernel, by decide +kernel, ?_, ?_⟩
  · exact safe.2.1 0 _ rfl .memory
  · exact safe.2.2.2 .memory (by decide)

end SharedCluster

end Fleet
