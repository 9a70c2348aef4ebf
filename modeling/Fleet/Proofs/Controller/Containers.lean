import Fleet.Proofs.Controller.Requests

/-!
# What the handlers of containers do

For each handler one relation lists everything that it can do to a controller, with the condition
of each case. What follows about the controller is derived from these relations, and the handlers
themselves are not opened again.
-/

namespace Fleet.Controller

variable {World : Type}

/-! ## Lists of replicas -/

theorem map_changeFirst {Value : Type} {read : Replica → Value} {change : Replica → Replica}
    (kept : ∀ replica, read (change replica) = read replica) (chosen : Replica → Bool)
    (replicas : List Replica) :
    (changeFirst chosen change replicas).map read = replicas.map read := by
  induction replicas with
  | nil => rfl
  | cons replica rest ih =>
      simp only [changeFirst]
      split
      · rw [List.map_cons, List.map_cons, kept]
      · rw [List.map_cons, List.map_cons, ih]

/-- Asking the first active replica to stop leaves one active replica fewer. -/
theorem countP_changeFirst_stopping {replicas : List Replica} {victim : Replica}
    (found : replicas.find? Replica.isActive = some victim) :
    (changeFirst Replica.isActive ({ · with phase := .stopping }) replicas).countP
        Replica.isActive + 1 =
      replicas.countP Replica.isActive := by
  induction replicas with
  | nil => cases found
  | cons replica rest ih =>
      simp only [changeFirst]
      by_cases active : replica.isActive
      · have stopping : ¬Replica.isActive { replica with phase := .stopping } := by
          simp [Replica.isActive, Replica.isStopping]
        rw [if_pos active, List.countP_cons_of_neg stopping, List.countP_cons_of_pos active]
      · rw [List.find?_cons_of_neg active] at found
        rw [if_neg active, List.countP_cons_of_neg active, List.countP_cons_of_neg active,
          ih found]

/-- Dropping the replica that is found leaves one active replica fewer if it was active. -/
theorem countP_eraseP {replicas : List Replica} {chosen : Replica → Bool} {dropped : Replica}
    (found : replicas.find? chosen = some dropped) :
    (replicas.eraseP chosen).countP Replica.isActive + (if dropped.isActive then 1 else 0) =
      replicas.countP Replica.isActive := by
  induction replicas with
  | nil => cases found
  | cons replica rest ih =>
      by_cases here : chosen replica
      · rw [List.find?_cons_of_pos here] at found
        obtain rfl : replica = dropped := Option.some.inj found
        rw [List.eraseP_cons_of_pos here, List.countP_cons]
      · rw [List.find?_cons_of_neg here] at found
        rw [List.eraseP_cons_of_neg here, List.countP_cons, List.countP_cons, ← ih found]
        omega

theorem map_eraseP_id (replicas : List Replica) (id : String) :
    (replicas.eraseP (·.id = id)).map Replica.id = (replicas.map Replica.id).erase id := by
  rw [List.erase_eq_eraseP', List.eraseP_map]
  rfl

theorem activeCount_eq_countP (controller : Controller) :
    controller.activeCount = controller.running.countP Replica.isActive :=
  List.countP_eq_length_filter.symm

/-- The containers that are running or being launched. -/
def known (controller : Controller) : List String :=
  controller.running.map Replica.id ++ controller.launching.keys

theorem isKnown_iff {controller : Controller} {id : String} :
    controller.isKnown id = true ↔ id ∈ controller.known := by
  simp only [isKnown, known, Bool.or_eq_true, SortedMap.contains_iff_mem_keys, List.any_eq_true,
    decide_eq_true_eq, List.mem_append, List.mem_map]
  exact or_comm

theorem isKnown_eq_false_iff {controller : Controller} {id : String} :
    controller.isKnown id = false ↔ id ∉ controller.known := by
  rw [← isKnown_iff, Bool.not_eq_true]

theorem not_launching_of_unknown {controller : Controller} {id : String}
    (unknown : controller.isKnown id = false) : controller.launching.contains id = false := by
  simp only [isKnown, Bool.or_eq_false_iff] at unknown
  exact unknown.1

theorem SameRoster.known_eq {before after : Controller} (same : SameRoster before after) :
    after.known = before.known := by
  rw [known, known, same.ids, same.launching]

theorem known_publish (controller : Controller) : controller.publish.known = controller.known := rfl

theorem known_adopt_perm (controller : Controller) (replica : Replica) (now : Nat) :
    (controller.adopt replica now).known.Perm (replica.id :: controller.known) := by
  simp only [known, adopt, List.map_append, List.map_cons, List.map_nil, List.append_assoc,
    List.singleton_append]
  exact List.perm_middle

theorem known_insert_perm {controller : Controller} {id : String}
    (absent : controller.launching.contains id = false) (replica : Replica) :
    ({ controller with
      launching := controller.launching.insert id replica } : Controller).known.Perm
        (id :: controller.known) :=
  ((SortedMap.keys_insert_perm absent replica).append_left _).trans List.perm_middle

theorem known_erase_perm {controller : Controller} {id : String}
    (present : id ∈ controller.launching.keys) :
    (id :: ({ controller with
      launching := controller.launching.erase id } : Controller).known).Perm controller.known := by
  simp only [known, SortedMap.keys_erase]
  exact List.perm_middle.symm.trans ((List.perm_cons_erase present).symm.append_left _)

theorem known_erase_sublist (controller : Controller) (id : String) :
    ({ controller with launching := controller.launching.erase id } : Controller).known.Sublist
      controller.known := by
  simp only [known, SortedMap.keys_erase]
  exact List.erase_sublist.append_left _

theorem known_dropReplica_sublist (controller : Controller) (id : String) :
    (controller.dropReplica id).known.Sublist controller.known :=
  (List.eraseP_sublist.map Replica.id).append_right _

/-! ## Grants -/

/-- What a grant can do. -/
inductive Granted (controller : Controller) (allocation : Allocation) : Controller → Prop
  | ignored (known : controller.isKnown allocation.replica = true) :
      Granted controller allocation controller
  | released (unknown : controller.isKnown allocation.replica = false)
      (met : controller.target ≤ controller.activeCount + controller.launching.entries.length) :
      Granted controller allocation
        (({ controller with pending := controller.pending.drop 1 } : Controller).start
          (.release allocation.replica))
  | accepted (unknown : controller.isKnown allocation.replica = false)
      (unmet : controller.activeCount + controller.launching.entries.length < controller.target) :
      Granted controller allocation
        (({ controller with
            pending := controller.pending.drop 1
            launching :=
              controller.launching.insert allocation.replica allocation.toReplica } :
          Controller).start (.launch allocation.toReplica))

theorem onAllocated_granted (controller : Controller) (allocation : Allocation) :
    Granted controller allocation (controller.onAllocated allocation) := by
  simp only [onAllocated]
  by_cases known : controller.isKnown allocation.replica
  · rw [if_pos known]
    exact .ignored known
  · rw [if_neg known]
    rw [Bool.not_eq_true] at known
    by_cases met : controller.target ≤
        controller.activeCount + controller.launching.entries.length
    · exact (if_pos met).symm ▸ .released known met
    · exact (if_neg met).symm ▸ .accepted known (Nat.lt_of_not_le met)

/-- What every grant keeps, a batch of grants keeps. -/
theorem allocated_keeps (Holds : Controller → Prop) (allocations : List Allocation)
    (kept : ∀ allocation ∈ allocations, ∀ before after,
      Granted before allocation after → Holds before → Holds after)
    {controller : Controller} (holds : Holds controller) :
    Holds (allocations.foldl onAllocated controller) := by
  apply List.foldlRecOn allocations onAllocated holds
  intro reached held allocation member
  exact kept allocation member reached _ (onAllocated_granted reached allocation) held

/-! ## Completions -/

/-- What a completion can do. -/
inductive Ended (surroundings : Surroundings World) (controller : Controller)
    (completion : Completion) (world : World) : Controller → Prop
  | buried (launching : controller.launching.contains completion.replica = true) :
      Ended surroundings controller completion world
        { controller with tombstones := controller.tombstones.insert completion.replica () }
  | ignored (unknown : controller.isKnown completion.replica = false) :
      Ended surroundings controller completion world controller
  | dropped (notLaunching : controller.launching.contains completion.replica = false)
      {replica : Replica}
      (found : controller.running.find? (·.id = completion.replica) = some replica)
      (stopping : replica.isStopping = true) :
      Ended surroundings controller completion world
        (controller.dropReplica completion.replica)
  | replaced (notLaunching : controller.launching.contains completion.replica = false)
      {replica : Replica}
      (found : controller.running.find? (·.id = completion.replica) = some replica)
      (active : replica.isStopping = false) :
      Ended surroundings controller completion world
        (((controller.dropReplica completion.replica).alert
            (.containerFailure completion.replica completion.reason
              (surroundings.epoch world))).requestMissing surroundings world).1

theorem onCompleted_ended (surroundings : Surroundings World) (controller : Controller)
    (completion : Completion) (world : World) :
    Ended surroundings controller completion world
      (controller.onCompleted surroundings completion world).1 := by
  simp only [onCompleted]
  by_cases launching : controller.launching.contains completion.replica
  · rw [if_pos launching]
    exact .buried launching
  · rw [if_neg launching]
    rw [Bool.not_eq_true] at launching
    cases found : controller.running.find? (·.id = completion.replica) with
    | none =>
        refine .ignored ?_
        rw [isKnown, launching, Bool.false_or, List.any_eq_false]
        exact List.find?_eq_none.mp found
    | some replica =>
        cases stopping : replica.isStopping with
        | true =>
            simp only [stopping, if_true]
            exact .dropped launching found stopping
        | false =>
            simp only [stopping, Bool.false_eq_true, if_false]
            exact .replaced launching found stopping

theorem onCompletions_append (surroundings : Surroundings World) (first rest : List Completion)
    (controller : Controller) (world : World) :
    onCompletions surroundings (first ++ rest) controller world =
      onCompletions surroundings rest (onCompletions surroundings first controller world).1
        (onCompletions surroundings first controller world).2 := by
  induction first generalizing controller world with
  | nil => rfl
  | cons completion others ih => exact ih _ _

theorem completions_keep (surroundings : Surroundings World) (Holds : Controller → Prop)
    (completions : List Completion)
    (kept : ∀ completion ∈ completions, ∀ before world after,
      Ended surroundings before completion world after → Holds before → Holds after)
    {controller : Controller} (holds : Holds controller) (world : World) :
    Holds (onCompletions surroundings completions controller world).1 := by
  induction completions generalizing controller world with
  | nil => exact holds
  | cons completion rest ih =>
      have first := kept completion List.mem_cons_self controller world _
        (onCompleted_ended surroundings controller completion world) holds
      exact ih (fun other member => kept other (List.mem_cons_of_mem _ member)) first _

/-! ## Results of background work -/

/-- What the result of a launch can do. -/
inductive Landed (controller : Controller) (replica : Replica) (now : Nat) :
    Except ClusterError Unit → Controller → Prop
  | discarded {result : Except ClusterError Unit}
      (buried : controller.tombstones.contains replica.id = true) :
      Landed controller replica now result
        { controller with
          launching := controller.launching.erase replica.id
          tombstones := controller.tombstones.erase replica.id }
  | adopted (alive : controller.tombstones.contains replica.id = false) :
      Landed controller replica now (.ok ())
        ({ controller with
            launching := controller.launching.erase replica.id }.adopt replica now).publish
  | failed (alive : controller.tombstones.contains replica.id = false)
      (failure : ClusterError) :
      Landed controller replica now (.error failure)
        (({ controller with
            launching := controller.launching.erase replica.id }.alert
          (.containerFailure replica.id ("launch failed: " ++ failure.message) now)).start
            (.release replica.id)).publish

theorem onLaunched_landed (controller : Controller) (replica : Replica)
    (result : Except ClusterError Unit) (now : Nat) :
    Landed controller replica now result (controller.onLaunched replica result now) := by
  simp only [onLaunched]
  by_cases buried : controller.tombstones.contains replica.id
  · rw [if_pos buried]
    exact .discarded buried
  · rw [if_neg buried]
    rw [Bool.not_eq_true] at buried
    cases result with
    | ok => exact .adopted buried
    | error failure => exact .failed buried failure

/-- What the result of background work can do. That of a stop changes the phase of a replica at
most, that of a release what has still to be given back. -/
inductive Finished (controller : Controller) (now : Nat) :
    Work → Except ClusterError Unit → Controller → Prop
  | launched {replica : Replica} {result : Except ClusterError Unit} {after : Controller}
      (landed : Landed controller replica now result after) :
      Finished controller now (.launch replica) result after
  | stopped (replica : Replica) (result : Except ClusterError Unit) {running : List Replica}
      (ids : running.map Replica.id = controller.running.map Replica.id) (published : Status) :
      Finished controller now (.stop replica) result
        { controller with running := running, published := published }
  | released (id : String) (result : Except ClusterError Unit) (unreleased : NameSet)
      (published : Status) :
      Finished controller now (.release id) result
        { controller with unreleased := unreleased, published := published }

theorem onFinished_finished (controller : Controller) (work : Work)
    (result : Except ClusterError Unit) (now : Nat) :
    Finished controller now work result (controller.onFinished work result now) := by
  cases work with
  | launch replica => exact .launched (onLaunched_landed controller replica result now)
  | stop replica =>
      cases result with
      | ok => exact .stopped replica (.ok ()) rfl _
      | error failure =>
          refine .stopped replica (.error failure) ?_ _
          apply map_changeFirst
          intro other
          rfl
  | release id =>
      simp only [onFinished, onReleased]
      split <;> exact .released id _ _ _

end Fleet.Controller
