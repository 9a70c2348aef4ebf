import Fleet.Proofs.Controller.Identity

/-!
# Who keeps a container

A granted container is in the custody of the controller until its end is reported or it is given
back. Custody moves: from the launch to the running set, from a launch that failed to a release,
from a release that failed to the next round. Containers are counted by name, so that none is lost
on the way and none is held twice.
-/

namespace Fleet

/-- The container that a call gives back. -/
def Work.released? : Work → Option String
  | release replica => some replica
  | launch _ | stop _ => none

/-- The containers whose release was started and whose result was not taken. -/
def Background.releases (background : Background) : Multiset String :=
  background.outstanding.filterMap Work.released?

namespace Controller

variable {World : Type} {surroundings : Surroundings World} {before after : Controller}

/-- Where a container can be. -/
inductive Place where
  | running
  | launching
  /-- Its release is in flight. -/
  | releasing
  /-- Its release failed. -/
  | unreleased
  deriving DecidableEq

/-- The containers in a place, as often as they are there. -/
def held (controller : Controller) : Place → Multiset String
  | .running => controller.running.map Replica.id
  | .launching => controller.launching.keys
  | .releasing => controller.background.tasks.filterMap Work.released?
  | .unreleased => controller.unreleased.keys

/-- The containers in all places, those with a lost release included. -/
def custody (controller : Controller) : Multiset String :=
  controller.held .running + controller.held .launching + controller.background.releases +
    controller.held .unreleased

/-- What moves no container leaves the custody as it is. -/
theorem custody_eq (same : SameRoster before after)
    (releases : after.background.releases = before.background.releases)
    (unreleased : after.unreleased = before.unreleased) : after.custody = before.custody := by
  simp only [custody, held, same.ids, same.launching, releases, unreleased]

theorem Requested.custody_eq {limit : Nat} (requested : Requested limit before after) :
    after.custody = before.custody := by
  refine Controller.custody_eq requested.sameRoster ?_ requested.unreleased_eq
  simp only [Background.releases]
  rw [requested.outstanding]

/-- While the controller does not look, no container is moved. -/
theorem custody_of_evolves {background : Background}
    (evolved : Background.Evolves 0 before.background background) :
    ({ before with background := background } : Controller).custody = before.custody := by
  refine custody_eq ⟨rfl, rfl, rfl⟩ ?_ rfl
  exact (evolved.filterMap_eq Work.released?).trans (zero_add _)

theorem custody_publish (controller : Controller) :
    controller.publish.custody = controller.custody := rfl

theorem custody_start_release (controller : Controller) (id : String) :
    (controller.start (.release id)).custody = id ::ₘ controller.custody := by
  have releases : (controller.start (.release id)).background.releases =
      id ::ₘ controller.background.releases :=
    (controller.background.start_evolves (.release id)).filterMap_eq Work.released?
  simp only [custody, releases, Multiset.cons_add, Multiset.add_cons]
  rfl

/-! ## Grants -/

theorem custody_adopt (controller : Controller) (replica : Replica) (now : Nat) :
    (controller.adopt replica now).custody = replica.id ::ₘ controller.custody := by
  have running : (controller.adopt replica now).held .running =
      replica.id ::ₘ controller.held .running := by
    simp [held, adopt, ← Multiset.coe_add, add_comm, ← Multiset.singleton_add]
  simp only [custody, running, Multiset.cons_add]
  rfl

/-- A granted container comes into custody unless it is known, wherever it goes. -/
theorem Granted.custody_eq {allocation : Allocation} (granted : Granted before allocation after) :
    after.custody =
      if before.isKnown allocation.replica then before.custody
      else allocation.replica ::ₘ before.custody := by
  cases granted with
  | ignored known => rw [if_pos known]
  | released unknown =>
      rw [unknown, custody_start_release]
      rfl
  | accepted unknown =>
      have absent := not_launching_of_unknown unknown
      have keys := SortedMap.coe_keys_insert absent allocation.toReplica
      have releases : (before.background.start (.launch allocation.toReplica)).releases =
          before.background.releases :=
        ((before.background.start_evolves _).filterMap_eq Work.released?).trans (zero_add _)
      rw [unknown]
      simp only [custody, held, start, keys, releases, Multiset.cons_add, Multiset.add_cons,
        Bool.false_eq_true, if_false]

/-- Taking in containers one after the other counts each one of them, if each of them that is
not in custody yet is taken into it. -/
theorem count_custody_foldl {grant : Controller → Allocation → Controller} {id : String}
    (taken : ∀ controller allocation, (allocation.replica = id → id ∉ controller.custody) →
      (grant controller allocation).custody.count id =
        (allocation.replica ::ₘ controller.custody).count id)
    (allocations : List Allocation) (controller : Controller)
    (once : controller.custody.count id + (allocations.map Allocation.replica).count id ≤ 1) :
    (allocations.foldl grant controller).custody.count id =
      controller.custody.count id + (allocations.map Allocation.replica).count id := by
  induction allocations generalizing controller with
  | nil => rfl
  | cons allocation rest ih =>
      rw [List.foldl_cons, List.map_cons]
      rw [List.map_cons] at once
      by_cases here : allocation.replica = id
      · rw [here, List.count_cons_self] at once ⊢
        have absent : id ∉ controller.custody := by
          rw [← Multiset.count_eq_zero]
          omega
        have first := taken controller allocation fun _ => absent
        rw [here, Multiset.count_cons_self] at first
        rw [ih _ (by omega), first]
        omega
      · rw [List.count_cons_of_ne here] at once ⊢
        have first := taken controller allocation fun same => absurd same here
        rw [Multiset.count_cons_of_ne (Ne.symm here)] at first
        rw [ih _ (by omega), first]

theorem mem_custody_of_isKnown {controller : Controller} {id : String}
    (known : controller.isKnown id = true) : id ∈ controller.custody := by
  simp only [custody, held, Multiset.mem_add, Multiset.mem_coe]
  exact Or.inl (Or.inl (List.mem_append.mp (isKnown_iff.mp known)))

theorem count_custody_allocated (allocations : List Allocation) (controller : Controller)
    {id : String}
    (once : controller.custody.count id + (allocations.map Allocation.replica).count id ≤ 1) :
    (allocations.foldl onAllocated controller).custody.count id =
      controller.custody.count id + (allocations.map Allocation.replica).count id := by
  refine count_custody_foldl ?_ allocations controller once
  intro controller allocation fresh
  rw [(onAllocated_granted controller allocation).custody_eq]
  split
  · next known =>
      have different : id ≠ allocation.replica := by
        rintro rfl
        exact fresh rfl (mem_custody_of_isKnown known)
      rw [Multiset.count_cons_of_ne different]
  · rfl

theorem count_custody_adoptPrevious (previous : List Allocation) (controller : Controller)
    (now : Nat) {id : String}
    (once : controller.custody.count id + (previous.map Allocation.replica).count id ≤ 1) :
    (controller.adoptPrevious previous now).custody.count id =
      controller.custody.count id + (previous.map Allocation.replica).count id := by
  refine count_custody_foldl ?_ previous controller once
  intro controller allocation fresh
  split
  · next known =>
      have different : id ≠ allocation.replica := by
        rintro rfl
        exact fresh rfl (mem_custody_of_isKnown known)
      rw [Multiset.count_cons_of_ne different]
  · rw [custody_adopt]
    rfl

/-! ## Rounds and completions -/

theorem Ticked.custody_eq (ticked : Ticked before after) : after.custody = before.custody := by
  rcases ticked.work with ⟨victim, outstanding, -⟩
  have releases : after.background.releases =
      before.unreleased.keys + before.background.releases := by
    simp only [Background.releases]
    rw [outstanding]
    simp [Work.released?, List.filterMap_map, Function.comp_def]
  simp only [custody, held, ticked.ids, ticked.launching, ticked.unreleased, releases,
    SortedMap.keys_empty, Multiset.coe_nil]
  abel

/-- Dropping one replica leaves all others in custody. -/
theorem count_custody_dropReplica (controller : Controller) {dropped id : String}
    (other : dropped ≠ id) :
    (controller.dropReplica dropped).custody.count id = controller.custody.count id := by
  have running : ((controller.running.eraseP (·.id = dropped)).map Replica.id).count id =
      (controller.running.map Replica.id).count id := by
    rw [map_eraseP_id]
    exact List.count_erase_of_ne (Ne.symm other)
  simp only [custody, held, dropReplica, Multiset.count_add, Multiset.coe_count, running]
  rfl

theorem Ended.count_custody {completion : Completion} {world : World} {id : String}
    (ended : Ended surroundings before completion world after) (other : completion.replica ≠ id) :
    after.custody.count id = before.custody.count id := by
  cases ended with
  | buried => rfl
  | ignored => rfl
  | dropped => exact before.count_custody_dropReplica other
  | replaced =>
      rw [(requestMissing_requested ..).custody_eq]
      exact before.count_custody_dropReplica other

theorem count_custody_onCompletions (completions : List Completion) (controller : Controller)
    (world : World) {id : String} (others : id ∉ completions.map Completion.replica) :
    (onCompletions surroundings completions controller world).1.custody.count id =
      controller.custody.count id := by
  apply completions_keep surroundings fun reached =>
    reached.custody.count id = controller.custody.count id
  · intro completion member reached world after ended held
    have other : completion.replica ≠ id := by
      rintro rfl
      exact others (List.mem_map_of_mem member)
    exact (ended.count_custody other).trans held
  · rfl

/-! ## Results of background work -/

variable {earlier later : List (Work × Except ClusterError Unit)}
  {result : Except ClusterError Unit} {id : String}

theorem custody_withFinished {work : Work} (keeps : work.released? = none)
    (ready : before.background.finished = earlier ++ (work, result) :: later) :
    (before.withFinished (earlier ++ later)).custody = before.custody := by
  refine custody_eq ⟨rfl, rfl, rfl⟩ ?_ rfl
  simp only [Background.releases]
  rw [outstanding_withFinished ready, Multiset.filterMap_cons_none _ _ keeps]

theorem custody_of_release {released : String}
    (ready : before.background.finished = earlier ++ (.release released, result) :: later) :
    before.custody = released ::ₘ (before.withFinished (earlier ++ later)).custody := by
  have releases : before.background.releases =
      released ::ₘ (before.withFinished (earlier ++ later)).background.releases := by
    simp only [Background.releases]
    rw [outstanding_withFinished ready]
    exact Multiset.filterMap_cons_some _ _ _ rfl
  simp only [custody, releases, Multiset.cons_add, Multiset.add_cons]
  rfl

/-- A launched container that was not reported ended runs or is given back. -/
theorem Landed.count_custody {replica : Replica} {now : Nat}
    (landed : Landed before replica now result after)
    (launching : replica.id ∈ before.launching.keys) (unburied : id ∉ before.tombstones.keys) :
    after.custody.count id = before.custody.count id := by
  have moved : before.custody =
      replica.id ::ₘ
        { before with launching := before.launching.erase replica.id }.custody := by
    simp only [custody, held, ← SortedMap.cons_coe_keys_erase launching, Multiset.cons_add,
      Multiset.add_cons]
  cases landed with
  | discarded buried =>
      have different : id ≠ replica.id := by
        rintro rfl
        exact unburied (SortedMap.contains_iff_mem_keys.mp buried)
      rw [moved, Multiset.count_cons_of_ne different]
      rfl
  | adopted =>
      rw [custody_publish, custody_adopt, moved]
  | failed =>
      rw [custody_publish, custody_start_release, moved]
      rfl

theorem custody_onFinished_stop (controller : Controller) (replica : Replica)
    (result : Except ClusterError Unit) (now : Nat) :
    (controller.onFinished (.stop replica) result now).custody = controller.custody := by
  have finished := onFinished_finished controller (.stop replica) result now
  generalize controller.onFinished (.stop replica) result now = after at finished
  cases finished with
  | stopped _ _ ids => exact custody_eq ⟨ids, rfl, rfl⟩ rfl rfl

/-- A container whose release failed stays in custody, unless it was there twice. -/
theorem count_custody_onReleased {released : String} {now : Nat}
    (ready : before.background.finished = earlier ++ (.release released, result) :: later)
    (kept : id ∉ (Label.outcome (.release released) result).releases)
    (once : before.custody.count id ≤ 1) :
    ((before.withFinished (earlier ++ later)).onFinished (.release released) result
      now).custody.count id = before.custody.count id := by
  have taken := custody_of_release ready
  simp only [onFinished, onReleased]
  split
  · have different : id ≠ released := by simpa [Label.releases] using kept
    rw [custody_publish, taken, Multiset.count_cons_of_ne different]
  · have different : id ≠ released := by simpa [Label.releases] using kept
    rw [custody_publish, taken, Multiset.count_cons_of_ne different]
  · rw [custody_publish]
    cases failed : (before.withFinished (earlier ++ later)).unreleased.contains released with
    | false =>
        have keys := SortedMap.coe_keys_insert failed ()
        rw [taken]
        simp only [custody, held, keys, Multiset.add_cons]
    | true =>
        have keys := SortedMap.keys_insert_of_contains failed ()
        have different : id ≠ released := by
          rintro rfl
          have twice : id ∈ (before.withFinished (earlier ++ later)).custody := by
            simp only [custody, held, Multiset.mem_add, Multiset.mem_coe]
            exact Or.inr (SortedMap.contains_iff_mem_keys.mp failed)
          rw [taken, Multiset.count_cons_self] at once
          have := Multiset.count_pos.mpr twice
          omega
        rw [taken, Multiset.count_cons_of_ne different]
        simp only [custody, held, keys]

/-! ## Starting -/

theorem Started.count_custody {registration : Except ClusterError Registration}
    {answer : Except ClusterError Unit}
    (started : Started surroundings before registration answer after)
    (once : before.custody.count id + (Label.start registration).grants.count id ≤ 1) :
    after.custody.count id =
      before.custody.count id + (Label.start registration).grants.count id := by
  cases started with
  | refused evolved =>
      exact congrArg (Multiset.count id) (custody_of_evolves evolved)
  | @registered background evolved registration now target world =>
      have same : ({ before with
          background := background
          available := registration.available } : Controller).custody = before.custody :=
        custody_of_evolves evolved
      rw [← same] at once ⊢
      rw [custody_publish, (requestMissing_requested ..).custody_eq]
      exact count_custody_adoptPrevious registration.previous _ now once

/-! ## Completions to remember -/

theorem Granted.tombstones_eq {allocation : Allocation}
    (granted : Granted before allocation after) : after.tombstones = before.tombstones := by
  cases granted <;> rfl

theorem tombstones_allocated (allocations : List Allocation) (controller : Controller) :
    (allocations.foldl onAllocated controller).tombstones = controller.tombstones :=
  allocated_keeps (fun reached => reached.tombstones = controller.tombstones) allocations
    (fun _ _ _ _ granted held => granted.tombstones_eq.trans held) rfl

theorem Started.tombstones_eq {registration : Except ClusterError Registration}
    {answer : Except ClusterError Unit}
    (started : Started surroundings before registration answer after) :
    after.tombstones = before.tombstones := by
  cases started with
  | refused => rfl
  | registered evolved registration now target world =>
      refine (requestMissing_requested ..).sameRoster.tombstones.trans ?_
      rcases adoptPrevious_frame registration.previous now _ with ⟨running, aggregator, adopted⟩
      rw [adopted]

theorem Ended.tombstones_subset {completion : Completion} {world : World}
    (ended : Ended surroundings before completion world after) :
    ∀ id ∈ after.tombstones.keys, id ∈ before.tombstones.keys ∨ id = completion.replica := by
  intro id buried
  cases ended with
  | buried =>
      rw [← SortedMap.contains_iff_mem_keys, SortedMap.contains_insert, Bool.or_eq_true,
        decide_eq_true_eq, SortedMap.contains_iff_mem_keys] at buried
      exact buried.symm
  | ignored => exact Or.inl buried
  | dropped => exact Or.inl buried
  | replaced =>
      rw [(requestMissing_requested ..).sameRoster.tombstones] at buried
      exact Or.inl buried

theorem tombstones_onCompletions (completions : List Completion) (controller : Controller)
    (world : World) :
    ∀ id ∈ (onCompletions surroundings completions controller world).1.tombstones.keys,
      id ∈ controller.tombstones.keys ∨ id ∈ completions.map Completion.replica := by
  apply completions_keep surroundings fun reached => ∀ id ∈ reached.tombstones.keys,
    id ∈ controller.tombstones.keys ∨ id ∈ completions.map Completion.replica
  · intro completion member reached world after ended held id buried
    rcases ended.tombstones_subset id buried with old | rfl
    · exact held id old
    · exact Or.inr (List.mem_map_of_mem member)
  · exact fun id buried => Or.inl buried

theorem Landed.tombstones_subset {replica : Replica} {now : Nat}
    (landed : Landed before replica now result after) :
    ∀ id ∈ after.tombstones.keys, id ∈ before.tombstones.keys := by
  intro id buried
  cases landed with
  | discarded =>
      have remaining : id ∈ (before.tombstones.erase replica.id).keys := buried
      rw [SortedMap.keys_erase] at remaining
      exact List.mem_of_mem_erase remaining
  | adopted => exact buried
  | failed => exact buried

theorem Finished.tombstones_subset {work : Work} {now : Nat}
    (finished : Finished before now work result after) :
    ∀ id ∈ after.tombstones.keys, id ∈ before.tombstones.keys := by
  cases finished with
  | launched landed => exact landed.tombstones_subset
  | stopped => exact fun id buried => buried
  | released => exact fun id buried => buried

theorem Step.buried {label : Label} (step : Step surroundings label before after) :
    ∀ id ∈ after.tombstones.keys, id ∈ before.tombstones.keys ∨ id ∈ label.completions := by
  intro id buried
  cases step with
  | start world =>
      rw [(startUp_started surroundings before world).tombstones_eq] at buried
      exact Or.inl buried
  | tick world =>
      rw [(tick_ticked surroundings before world).tombstones] at buried
      exact Or.inl buried
  | event event world =>
      cases event with
      | allocated allocations =>
          have same := tombstones_allocated allocations before
          exact Or.inl (same ▸ buried)
      | completed completions => exact tombstones_onCompletions completions before world id buried
      | launchFailed replica reason =>
          have ended := onCompleted_ended surroundings before (failedLaunch replica reason) world
          exact (ended.tombstones_subset id buried).imp_right List.mem_singleton.mpr
      | trouble | resourcesUpdated | shutdownRequested => exact Or.inl buried
  | @outcome _ earlier later work result ready world =>
      have finished := onFinished_finished (before.withFinished (earlier ++ later)) work result
        (surroundings.epoch world)
      exact Or.inl (finished.tombstones_subset id buried)
  | progress flying world => exact Or.inl buried

/-! ## Runs -/

/-- A step counts the containers that it grants and keeps the count of every container that it
neither reports ended nor shows to be given back. -/
theorem Step.count_custody {label : Label} (step : Step surroundings label before after)
    (identified : Identified before) (unburied : id ∉ before.tombstones.keys)
    (alive : id ∉ label.completions) (kept : id ∉ label.releases)
    (once : before.custody.count id + label.grants.count id ≤ 1) :
    after.custody.count id = before.custody.count id + label.grants.count id := by
  cases step with
  | start world => exact (startUp_started surroundings before world).count_custody once
  | tick world =>
      rw [(tick_ticked ..).custody_eq]
      rfl
  | event event world =>
      cases event with
      | allocated allocations => exact count_custody_allocated allocations before once
      | completed completions => exact count_custody_onCompletions completions before world alive
      | launchFailed replica reason =>
          have other : id ≠ replica := by simpa [Label.completions] using alive
          have ended := onCompleted_ended surroundings before (failedLaunch replica reason) world
          simp only [handleEvent, onEvent]
          rw [custody_publish, custody_start_release, Multiset.count_cons_of_ne other]
          exact ended.count_custody (Ne.symm other)
      | trouble | resourcesUpdated | shutdownRequested => rfl
  | @outcome _ earlier later work result ready world =>
      cases work with
      | launch replica =>
          have landed := onLaunched_landed (before.withFinished (earlier ++ later)) replica result
            (surroundings.epoch world)
          rw [← custody_withFinished rfl ready]
          exact landed.count_custody (identified.take_launch ready).1 unburied
      | stop replica =>
          rw [custody_onFinished_stop, custody_withFinished rfl ready]
          rfl
      | release released => exact count_custody_onReleased ready kept once
  | progress flying world =>
      exact congrArg (Multiset.count id)
        (custody_of_evolves (progress_evolves surroundings flying world))

theorem Run.buried {labels : List Label} {controller : Controller}
    (run : Run surroundings labels controller) :
    ∀ id ∈ controller.tombstones.keys, id ∈ completions labels := by
  induction run with
  | initial settings => exact fun id buried => absurd buried List.not_mem_nil
  | step _ step ih =>
      intro id buried
      rw [completions_append, completions_singleton, List.mem_append]
      exact (step.buried id buried).imp_left (ih id)

/-- A container that was neither reported ended nor given back is in custody as often as it was
granted. -/
theorem Run.count_custody {labels : List Label} {controller : Controller}
    (run : Run surroundings labels controller) (once : (grants labels).Nodup)
    (alive : id ∉ completions labels) (kept : id ∉ releases labels) :
    controller.custody.count id = (grants labels).count id := by
  induction run with
  | initial settings => rfl
  | step earlier step ih =>
      simp only [grants_append, grants_singleton] at once ⊢
      rw [completions_append, completions_singleton, List.mem_append, not_or] at alive
      rw [releases_append, releases_singleton, List.mem_append, not_or] at kept
      have counted := ih (once.sublist (List.sublist_append_left _ _)) alive.1 kept.1
      have bound := List.nodup_iff_count_le_one.mp once id
      rw [List.count_append, ← counted] at bound ⊢
      exact step.count_custody earlier.identified (fun buried => alive.1 (earlier.buried id buried))
        alive.2 kept.2 bound

/-- A container that is in custody once is in one place, and there once. -/
theorem place_of_count_custody {controller : Controller}
    (intact : controller.background.lost = []) (once : controller.custody.count id = 1) :
    ∃ place, (controller.held place).count id = 1 ∧
      ∀ other, id ∈ controller.held other → other = place := by
  have releasing : controller.background.releases = controller.held .releasing := by
    simp only [Background.releases, Background.outstanding_eq_tasks intact, held]
  simp only [custody, releasing, Multiset.count_add] at once
  have somewhere : ∃ place, (controller.held place).count id = 1 := by
    by_contra nowhere
    rw [not_exists] at nowhere
    have notRunning := nowhere .running
    have notLaunching := nowhere .launching
    have notReleasing := nowhere .releasing
    have notUnreleased := nowhere .unreleased
    omega
  rcases somewhere with ⟨place, here⟩
  refine ⟨place, here, ?_⟩
  intro other member
  have present := Multiset.one_le_count_iff_mem.mpr member
  by_contra different
  -- Two places would hold the container twice.
  cases place <;> cases other <;> first | exact different rfl | omega

/-- Conservation of containers. In every run in which no container is granted twice and no call is
lost, a granted container whose end was not reported and that was not given back is in exactly one
place: it runs, its launch is in flight, its release is in flight, or its release failed and is
tried again. -/
theorem granted_in_one_place {labels : List Label} {controller : Controller}
    (run : Run surroundings labels controller) (once : (grants labels).Nodup)
    (intact : controller.background.lost = []) (granted : id ∈ grants labels)
    (alive : id ∉ completions labels) (kept : id ∉ releases labels) :
    ∃ place, (controller.held place).count id = 1 ∧
      ∀ other, id ∈ controller.held other → other = place := by
  apply place_of_count_custody intact
  rw [run.count_custody once alive kept]
  exact List.count_eq_one_of_mem once granted

/-- A container that is granted beyond the target is in one place, too. -/
theorem surplus_in_one_place :
    ∃ controller,
      Run (standstill [bareAllocation "adopted"])
          [.start (.ok ⟨[bareAllocation "adopted"], {}⟩),
            .event (.allocated [bareAllocation "surplus"])] controller ∧
        ∃ place, (controller.held place).count "surplus" = 1 ∧
          ∀ other, "surplus" ∈ controller.held other → other = place := by
  have initial := @Run.initial Unit (standstill [bareAllocation "adopted"]) plainSettings
  have run := (initial.step (.start ())).step (.event (.allocated [bareAllocation "surplus"]) ())
  exact ⟨_, run, granted_in_one_place run (by decide) rfl (by decide) (by decide) (by decide)⟩

end Controller

end Fleet
