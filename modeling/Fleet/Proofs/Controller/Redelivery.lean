import Fleet.Proofs.Controller.Custody

/-!
# Grants that come again

The cluster may report a grant more than once. While the container is running or being launched
such a grant is ignored, wherever it stands in a batch. The controller keeps no record of a
container that it has let go, so that a grant of one is that of a new container.

A granted container stays in custody, however often it is granted, until its end is reported or it
was given back. So it is running or being launched, unless it is being given back.
-/

namespace Fleet.Controller

variable {World : Type} {surroundings : Surroundings World} {before after : Controller}
  {id : String}

/-! ## Grants of known containers -/

/-- No grant makes a container unknown. -/
theorem Granted.isKnown {allocation : Allocation} (granted : Granted before allocation after)
    (known : before.isKnown id = true) : after.isKnown id = true := by
  rw [isKnown_iff] at known ⊢
  cases granted with
  | ignored => exact known
  | released => exact known
  | accepted unknown =>
      have inserted := known_insert_perm (not_launching_of_unknown unknown) allocation.toReplica
      exact inserted.mem_iff.mpr (List.mem_cons_of_mem _ known)

/-- A batch does to the controller what it does without the grants of a known container. -/
theorem allocated_filter (allocations : List Allocation) {controller : Controller}
    (known : controller.isKnown id = true) :
    allocations.foldl onAllocated controller =
      (allocations.filter (·.replica ≠ id)).foldl onAllocated controller := by
  induction allocations generalizing controller with
  | nil => rfl
  | cons allocation rest ih =>
      by_cases again : allocation.replica = id
      · have ignored : controller.onAllocated allocation = controller := by
          rw [onAllocated, again, if_pos known]
        rw [List.filter_cons_of_neg (by simpa using again), List.foldl_cons, ignored]
        exact ih known
      · rw [List.filter_cons_of_pos (by simpa using again), List.foldl_cons, List.foldl_cons]
        exact ih ((onAllocated_granted controller allocation).isKnown known)

/-- Once a container is known, also in the midst of a batch, the grants of it that are left change
nothing. -/
theorem handleEvent_filter (earlier later : List Allocation) {controller : Controller}
    (known : (earlier.foldl onAllocated controller).isKnown id = true) (world : World) :
    controller.handleEvent surroundings (.allocated (earlier ++ later)) world =
      controller.handleEvent surroundings
        (.allocated (earlier ++ later.filter (·.replica ≠ id))) world := by
  simp only [handleEvent, onEvent, List.foldl_append]
  rw [allocated_filter later known]

/-- Alone, a grant of a known container only publishes the view. -/
theorem handleEvent_of_isKnown {controller : Controller} {allocation : Allocation}
    (known : controller.isKnown allocation.replica = true) (world : World) :
    controller.handleEvent surroundings (.allocated [allocation]) world =
      (controller.publish, world) := by
  have nothing : [allocation].filter (·.replica ≠ allocation.replica) = [] := by simp
  calc
    controller.handleEvent surroundings (.allocated [allocation]) world
      = controller.handleEvent surroundings
          (.allocated ([] ++ [allocation].filter (·.replica ≠ allocation.replica))) world :=
        handleEvent_filter [] [allocation] known world
    _ = (controller.publish, world) := by
      rw [nothing]
      rfl

/-! ## Grants of unknown containers -/

/-- The call with which a grant of a new container is answered. -/
def answer (controller : Controller) (allocation : Allocation) : Work :=
  if controller.activeCount + controller.launching.entries.length < controller.target then
    .launch allocation.toReplica
  else .release allocation.replica

theorem Granted.answered {allocation : Allocation} (granted : Granted before allocation after)
    (unknown : before.isKnown allocation.replica = false) :
    after.pending = before.pending.drop 1 ∧
      after.background.outstanding =
        before.answer allocation ::ₘ before.background.outstanding := by
  cases granted with
  | ignored known =>
      rw [unknown] at known
      cases known
  | released _ met =>
      refine ⟨rfl, ?_⟩
      rw [answer, if_neg (Nat.not_lt.mpr met), ← Multiset.singleton_add]
      exact (Background.start_evolves _ _).outstanding
  | accepted _ unmet =>
      refine ⟨rfl, ?_⟩
      rw [answer, if_pos unmet, ← Multiset.singleton_add]
      exact (Background.start_evolves _ _).outstanding

/-! ## Granted containers stay in custody -/

theorem Granted.mem_custody {allocation : Allocation} (granted : Granted before allocation after)
    (member : id ∈ before.custody ∨ allocation.replica = id) : id ∈ after.custody := by
  rw [granted.custody_eq]
  split
  · next known =>
      rcases member with held | rfl
      · exact held
      · exact mem_custody_of_isKnown known
  · rcases member with held | rfl
    · exact Multiset.mem_cons_of_mem held
    · exact Multiset.mem_cons_self _ _

theorem mem_custody_foldl {grant : Controller → Allocation → Controller}
    (taken : ∀ controller allocation,
      id ∈ controller.custody ∨ allocation.replica = id →
        id ∈ (grant controller allocation).custody)
    (allocations : List Allocation) (controller : Controller)
    (member : id ∈ controller.custody ∨ id ∈ allocations.map Allocation.replica) :
    id ∈ (allocations.foldl grant controller).custody := by
  induction allocations generalizing controller with
  | nil => exact member.resolve_right List.not_mem_nil
  | cons allocation rest ih =>
      apply ih
      rcases member with held | granted
      · exact Or.inl (taken controller allocation (Or.inl held))
      · rcases List.mem_cons.mp granted with rfl | later
        · exact Or.inl (taken controller allocation (Or.inr rfl))
        · exact Or.inr later

theorem mem_custody_allocated (allocations : List Allocation) (controller : Controller)
    (member : id ∈ controller.custody ∨ id ∈ allocations.map Allocation.replica) :
    id ∈ (allocations.foldl onAllocated controller).custody :=
  mem_custody_foldl
    (fun controller allocation => (onAllocated_granted controller allocation).mem_custody)
    allocations controller member

theorem mem_custody_adoptPrevious (previous : List Allocation) (controller : Controller)
    (now : Nat) (member : id ∈ controller.custody ∨ id ∈ previous.map Allocation.replica) :
    id ∈ (controller.adoptPrevious previous now).custody := by
  refine mem_custody_foldl ?_ previous controller member
  intro controller allocation member
  split
  · next known =>
      rcases member with held | rfl
      · exact held
      · exact mem_custody_of_isKnown known
  · rw [custody_adopt, Multiset.mem_cons]
    exact member.symm.imp_left Eq.symm

theorem Started.mem_custody {registration : Except ClusterError Registration}
    {reply : Except ClusterError Unit}
    (started : Started surroundings before registration reply after)
    (member : id ∈ before.custody ∨ id ∈ (Label.start registration).grants) :
    id ∈ after.custody := by
  cases started with
  | refused evolved =>
      have same := custody_of_evolves evolved
      have held := member.resolve_right List.not_mem_nil
      rwa [← same] at held
  | @registered background evolved registration now target world =>
      have same : ({ before with
          background := background
          available := registration.available } : Controller).custody = before.custody :=
        custody_of_evolves evolved
      rw [← same] at member
      rw [custody_publish, (requestMissing_requested ..).custody_eq]
      exact mem_custody_adoptPrevious registration.previous _ now member

theorem mem_custody_insert_unreleased (controller : Controller) (released : String) :
    id ∈ ({ controller with
        unreleased := controller.unreleased.insert released () } : Controller).custody ↔
      id = released ∨ id ∈ controller.custody := by
  simp only [custody, held, Multiset.mem_add, Multiset.mem_coe,
    ← SortedMap.contains_iff_mem_keys, SortedMap.contains_insert, Bool.or_eq_true,
    decide_eq_true_eq]
  tauto

theorem mem_custody_onReleased {earlier later : List (Work × Except ClusterError Unit)}
    {released : String} {result : Except ClusterError Unit} {now : Nat}
    (ready : before.background.finished = earlier ++ (.release released, result) :: later)
    (kept : id ∉ (Label.outcome (.release released) result).releases)
    (held : id ∈ before.custody) :
    id ∈ ((before.withFinished (earlier ++ later)).onFinished (.release released) result
      now).custody := by
  rw [custody_of_release ready, Multiset.mem_cons] at held
  simp only [onFinished, onReleased]
  split
  · have different : id ≠ released := by simpa [Label.releases] using kept
    exact held.resolve_left different
  · have different : id ≠ released := by simpa [Label.releases] using kept
    exact held.resolve_left different
  · rw [custody_publish, mem_custody_insert_unreleased]
    exact held

theorem mem_custody_of_count_eq (held : id ∈ before.custody)
    (same : after.custody.count id = before.custody.count id) : id ∈ after.custody := by
  rwa [← Multiset.count_pos, same, Multiset.count_pos]

/-- A step takes in what it grants, and lets no container go that it neither reports ended nor
shows to be given back. -/
theorem Step.mem_custody {label : Label} (step : Step surroundings label before after)
    (identified : Identified before) (unburied : id ∉ before.tombstones.keys)
    (alive : id ∉ label.completions) (kept : id ∉ label.releases)
    (member : id ∈ before.custody ∨ id ∈ label.grants) : id ∈ after.custody := by
  cases step with
  | start world => exact (startUp_started surroundings before world).mem_custody member
  | tick world =>
      rw [(tick_ticked ..).custody_eq]
      exact member.resolve_right List.not_mem_nil
  | event event world =>
      cases event with
      | allocated allocations => exact mem_custody_allocated allocations before member
      | completed completions =>
          have held := member.resolve_right List.not_mem_nil
          exact mem_custody_of_count_eq held
            (count_custody_onCompletions completions before world alive)
      | launchFailed replica reason =>
          have held := member.resolve_right List.not_mem_nil
          have other : replica ≠ id := by
            rintro rfl
            exact alive (List.mem_singleton.mpr rfl)
          have ended := onCompleted_ended surroundings before (failedLaunch replica reason) world
          simp only [handleEvent, onEvent]
          rw [custody_publish, custody_start_release]
          exact Multiset.mem_cons_of_mem
            (mem_custody_of_count_eq held (ended.count_custody other))
      | trouble | resourcesUpdated | shutdownRequested =>
          exact member.resolve_right List.not_mem_nil
  | @outcome _ earlier later work result ready world =>
      have held := member.resolve_right List.not_mem_nil
      cases work with
      | launch replica =>
          have landed := onLaunched_landed (before.withFinished (earlier ++ later)) replica result
            (surroundings.epoch world)
          rw [← custody_withFinished rfl ready] at held
          exact mem_custody_of_count_eq held
            (landed.count_custody (identified.take_launch ready).1 unburied)
      | stop replica =>
          rwa [custody_onFinished_stop, custody_withFinished rfl ready]
      | release released => exact mem_custody_onReleased ready kept held
  | progress flying world =>
      rw [custody_of_evolves (progress_evolves surroundings flying world)]
      exact member.resolve_right List.not_mem_nil

/-- A granted container whose end was not reported and that was not given back is in custody,
however often it was granted. -/
theorem Run.mem_custody {labels : List Label} {controller : Controller}
    (run : Run surroundings labels controller) (granted : id ∈ grants labels)
    (alive : id ∉ completions labels) (kept : id ∉ releases labels) :
    id ∈ controller.custody := by
  induction run with
  | initial settings => exact absurd granted List.not_mem_nil
  | step earlier step ih =>
      rw [grants_append, grants_singleton, List.mem_append] at granted
      rw [completions_append, completions_singleton, List.mem_append, not_or] at alive
      rw [releases_append, releases_singleton, List.mem_append, not_or] at kept
      refine step.mem_custody earlier.identified ?_ alive.2 kept.2 ?_
      · exact fun buried => alive.1 (earlier.buried id buried)
      · exact granted.imp_left fun before => ih before alive.1 kept.1

theorem isKnown_of_mem_custody {controller : Controller} (held : id ∈ controller.custody)
    (intact : controller.background.lost = []) (releasing : id ∉ controller.held .releasing)
    (unreleased : id ∉ controller.held .unreleased) : controller.isKnown id = true := by
  have releases : controller.background.releases = controller.held .releasing := by
    simp only [Background.releases, Background.outstanding_eq_tasks intact, Controller.held]
  simp only [custody, releases, Multiset.mem_add, releasing, unreleased, or_false] at held
  rw [isKnown_iff, known, List.mem_append]
  exact held

/-- Grants that come again are inert for the containers that the controller has. Of a container that
is running or being launched a grant changes nothing, alone or in the midst of a batch, and a
granted container is one of these unless its end was reported, or it was or is being given back. Of
a container that it has nowhere the controller keeps no record: a grant answers the oldest request,
and is answered itself like that of a new container. -/
theorem redelivered_grant_inert {labels : List Label} {controller : Controller}
    (run : Run surroundings labels controller) (granted : id ∈ grants labels) :
    (controller.isKnown id = true → ∀ allocation world, allocation.replica = id →
      controller.handleEvent surroundings (.allocated [allocation]) world =
        (controller.publish, world)) ∧
    (∀ earlier later world, (earlier.foldl onAllocated controller).isKnown id = true →
      controller.handleEvent surroundings (.allocated (earlier ++ later)) world =
        controller.handleEvent surroundings
          (.allocated (earlier ++ later.filter (·.replica ≠ id))) world) ∧
    (controller.background.lost = [] → id ∉ completions labels → id ∉ releases labels →
      id ∉ controller.held .releasing → id ∉ controller.held .unreleased →
      controller.isKnown id = true) ∧
    ((∀ place, id ∉ controller.held place) → ∀ allocation world, allocation.replica = id →
      let after := (controller.handleEvent surroundings (.allocated [allocation]) world).1
      after.pending = controller.pending.drop 1 ∧
        after.background.outstanding =
          controller.answer allocation ::ₘ controller.background.outstanding) := by
  refine ⟨?_, fun earlier later world known => handleEvent_filter earlier later known world,
    ?_, ?_⟩
  · rintro known allocation world rfl
    exact handleEvent_of_isKnown known world
  · intro intact alive kept releasing unreleased
    exact isKnown_of_mem_custody (run.mem_custody granted alive kept) intact releasing unreleased
  · rintro forgotten allocation world rfl
    have unknown : controller.isKnown allocation.replica = false := by
      rw [isKnown_eq_false_iff, known, List.mem_append, not_or]
      exact ⟨forgotten .running, forgotten .launching⟩
    exact (onAllocated_granted controller allocation).answered unknown

/-- The controller after the launch of its first container succeeded. -/
def runningFirst : Controller :=
  let background := launchingFirst.background.runReady (standstill []) launchingFirst.settings ()
  ({ launchingFirst with background := background.1 }.withFinished []).onFinished
    (.launch (bareAllocation "first").toReplica) (.ok ()) 0

theorem run_runningFirst : Run (standstill []) (launchStarts ++ launchSucceeds) runningFirst := by
  have launched := run_launchingFirst.step (@Step.progress _ _ _ [] []
    ⟨.launch (bareAllocation "first").toReplica, some 0, .unstarted⟩ rfl ())
  exact launched.step (@Step.outcome _ _ _ [] []
    (.launch (bareAllocation "first").toReplica) (.ok ()) rfl ())

/-- A second grant of a container that was launched only publishes the view. -/
theorem second_grant_of_running :
    "first" ∈ grants (launchStarts ++ launchSucceeds) ∧
      runningFirst.handleEvent (standstill []) (.allocated [bareAllocation "first"]) () =
        (runningFirst.publish, ()) := by
  have granted : "first" ∈ grants (launchStarts ++ launchSucceeds) := by decide
  have inert := redelivered_grant_inert run_runningFirst granted
  have known := inert.2.2.1 rfl (by decide) (by decide) (by decide) (by decide)
  exact ⟨granted, inert.1 known _ () rfl⟩

/-- A container that ran and ended is launched again when its grant comes again, in answer to the
request for the container in its place. -/
theorem ended_container_launched_again :
    ∃ controller,
      Run (standstill []) (launchStarts ++ launchSucceeds ++ [completionComes]) controller ∧
        "first" ∈ grants (launchStarts ++ launchSucceeds ++ [completionComes]) ∧
        let after := (controller.handleEvent (standstill [])
          (.allocated [bareAllocation "first"]) ()).1
        after.pending.length < controller.pending.length ∧
          controller.background.tasks.count (.launch (bareAllocation "first").toReplica) <
            after.background.tasks.count (.launch (bareAllocation "first").toReplica) := by
  have run := run_runningFirst.step (.event (.completed [⟨"first", .failed, none, ""⟩]) ())
  exact ⟨_, run, by decide, by decide +kernel, by decide +kernel⟩

end Fleet.Controller
