import Fleet.Proofs.Controller.Rounds

/-!
# The controller in the foreground

A handler of the controller works by calls of the world and by starting calls in the background.
What each of these keeps, the handler keeps, whatever property of the background and the world that
is; only a stop is started where nothing follows. Where the world answers every call at once, no
call makes the controller pause, and no job goes on beside it. Then a handler leaves the results
that lie ready and the jobs in flight as they are, and the jobs that it starts have not begun.
-/

namespace Fleet

open ClusterError RetryPolicy

variable {World : Type}

/-- The replica that a call stops. -/
def Work.stopped? : Work → Option Replica
  | stop replica => some replica
  | launch _ | release _ => none

/-! ## What handlers keep -/

/-- A property of the background and the world that is kept where the controller calls the world
itself, and where it starts any call but a stop. -/
structure Surroundings.Sustains (surroundings : Surroundings World)
    (Holds : Background → World → Prop) : Prop where
  guards : ∀ {background : Background} {world : World} (breakers : BreakerRegistry)
    (retired : List Breaker), Holds background world →
      Holds { background with breakers := breakers, retired := retired } world
  start : ∀ {background : Background} {world : World} (work : Work), work.stopped? = none →
    Holds background world → Holds (background.start work) world
  register : ∀ (controller : Controller) {background : Background} {world : World},
    Holds background world →
      Holds (controller.callBeside surroundings surroundings.register (background, world)).2.1
        (controller.callBeside surroundings surroundings.register (background, world)).2.2
  request : ∀ (controller : Controller) (request : AllocationRequest) {background : Background}
    {world : World}, Holds background world →
      Holds (controller.callBeside surroundings (surroundings.request request)
          (background, world)).2.1
        (controller.callBeside surroundings (surroundings.request request)
          (background, world)).2.2
  ready : ∀ {background : Background} {world : World} (replica : Replica),
    Holds background world → Holds background (surroundings.ready replica world).2
  metrics : ∀ {background : Background} {world : World} (replica : Replica),
    Holds background world → Holds background (surroundings.metrics replica world).2

/-- A property holds of the background and the world, or did so before a stop was started. -/
def UpToStop (Holds : Background → World → Prop) (background : Background) (world : World) : Prop :=
  Holds background world ∨
    ∃ reached victim, Holds reached world ∧ background = reached.start (.stop victim)

namespace Controller

theorem background_publish (controller : Controller) :
    controller.publish.background = controller.background := rfl

end Controller

namespace Surroundings.Sustains

open Controller

variable {surroundings : Surroundings World} {Holds : Background → World → Prop} {world : World}
  {controller : Controller} (sustains : surroundings.Sustains Holds)
include sustains

/-! ### Containers -/

theorem granted {allocation : Allocation} {after : Controller}
    (granted : Granted controller allocation after) (holds : Holds controller.background world) :
    Holds after.background world := by
  cases granted with
  | ignored => exact holds
  | released => exact sustains.start (.release allocation.replica) rfl holds
  | accepted => exact sustains.start (.launch allocation.toReplica) rfl holds

theorem retryReleases (holds : Holds controller.background world) :
    Holds controller.retryReleases.background world := by
  simp only [Controller.retryReleases]
  apply List.foldlRecOn (motive := fun reached : Controller => Holds reached.background world)
  · exact holds
  · intro reached held id _
    exact sustains.start (.release id) rfl held

omit sustains in
theorem upToStop_stopOldest (holds : Holds controller.background world) :
    UpToStop Holds controller.stopOldest.background world := by
  simp only [stopOldest]
  split
  · exact Or.inl holds
  · exact Or.inr ⟨_, _, holds, rfl⟩

/-! ### Requests -/

theorem callRequest (request : AllocationRequest) (holds : Holds controller.background world) :
    Holds (controller.callRequest surroundings request world).2.1
      (controller.callRequest surroundings request world).2.2 := by
  have called := Breaker.call_keeps (controller.background.breakers.breaker allocatorKey)
    (fun state => surroundings.clock state.2)
    (controller.callBeside surroundings (surroundings.request request))
    (fun reached => Holds reached.1 reached.2)
    (fun _ held => sustains.request controller request held) (controller.background, world) holds
  simp only [Controller.callRequest]
  exact sustains.guards _ _ called

theorem issueRequests (count : Nat) (holds : Holds controller.background world) :
    Holds (issueRequests surroundings count controller world).1.background
      (issueRequests surroundings count controller world).2 := by
  induction count generalizing controller world with
  | zero => exact holds
  | succ count ih =>
      have called := sustains.callRequest controller.nextAllocationRequest holds
      simp only [Controller.issueRequests]
      split
      · exact ih called
      · exact called
      · exact called

theorem requestMissing (holds : Holds controller.background world) :
    Holds (controller.requestMissing surroundings world).1.background
      (controller.requestMissing surroundings world).2 := by
  simp only [Controller.requestMissing]
  split
  · exact holds
  · exact sustains.issueRequests _ (sustains.guards _ _ holds)

/-! ### Events -/

theorem onCompleted (completion : Completion) (holds : Holds controller.background world) :
    Holds (controller.onCompleted surroundings completion world).1.background
      (controller.onCompleted surroundings completion world).2 := by
  have dropped : Holds (controller.dropReplica completion.replica).background world :=
    sustains.guards _ _ holds
  simp only [Controller.onCompleted]
  split
  · exact holds
  · split
    · exact holds
    · split
      · exact dropped
      · exact sustains.requestMissing dropped

theorem onCompletions (completions : List Completion) (holds : Holds controller.background world) :
    Holds (onCompletions surroundings completions controller world).1.background
      (onCompletions surroundings completions controller world).2 := by
  induction completions generalizing controller world with
  | nil => exact holds
  | cons completion rest ih => exact ih (sustains.onCompleted completion holds)

theorem onEvent (event : ClusterEvent) (holds : Holds controller.background world) :
    Holds (controller.onEvent surroundings event world).1.background
      (controller.onEvent surroundings event world).2 := by
  cases event with
  | allocated allocations =>
      exact allocated_keeps (fun reached => Holds reached.background world)
        allocations (fun _ _ _ _ granted held => sustains.granted granted held) holds
  | completed completions => exact sustains.onCompletions completions holds
  | launchFailed replica reason =>
      exact sustains.start (.release replica) rfl
        (sustains.onCompleted (failedLaunch replica reason) holds)
  | trouble | resourcesUpdated | shutdownRequested => exact holds

theorem handleEvent (event : ClusterEvent) (holds : Holds controller.background world) :
    Holds (controller.handleEvent surroundings event world).1.background
      (controller.handleEvent surroundings event world).2 := by
  simp only [Controller.handleEvent, background_publish]
  exact sustains.onEvent event holds

/-! ### Rounds -/

theorem probeAll {background : Background} (replicas : List Replica) (breakers : BreakerRegistry)
    (holds : Holds background world) :
    Holds background (probeAll surroundings replicas breakers world).2.2 := by
  induction replicas generalizing breakers world with
  | nil => exact holds
  | cons replica rest ih =>
      simp only [Controller.probeAll]
      apply ih
      simp only [probe]
      apply Breaker.call_keeps _ _ _ (Holds background)
      · exact fun reached held => sustains.metrics replica held
      · split
        · exact holds
        · exact sustains.ready replica holds

theorem assess (now : Instant) (holds : Holds controller.background world) :
    Holds (controller.assess surroundings now world).2.1.background
      (controller.assess surroundings now world).2.2 := by
  simp only [Controller.assess, sampleReplicas_eq]
  rw [recordSamples_frame]
  exact sustains.guards _ _ (sustains.probeAll _ _ holds)

theorem actOnTarget (target : Nat) (holds : Holds controller.background world) :
    UpToStop Holds (controller.actOnTarget surroundings target world).1.background
      (controller.actOnTarget surroundings target world).2 := by
  simp only [Controller.actOnTarget]
  split
  · exact Or.inl (sustains.requestMissing holds)
  · split
    · exact upToStop_stopOldest holds
    · split
      · exact upToStop_stopOldest holds
      · exact Or.inl holds

theorem replenish (now : Instant) (holds : Holds controller.background world) :
    Holds (controller.replenish surroundings now world).1.background
      (controller.replenish surroundings now world).2 := by
  have expired : Holds (controller.expirePending now).background world := holds
  simp only [Controller.replenish]
  exact sustains.requestMissing (sustains.retryReleases expired)

theorem tick (holds : Holds controller.background world) :
    UpToStop Holds (controller.tick surroundings world).1.background
      (controller.tick surroundings world).2 := by
  have assessed : Holds (controller.assessed surroundings world).2.1.background
      (controller.assessed surroundings world).2.2 := by
    simp only [Controller.assessed]
    exact sustains.assess _ (sustains.replenish _ holds)
  simp only [tick_eq, background_publish]
  exact sustains.actOnTarget _ assessed

/-! ### Starting -/

theorem startUp (holds : Holds controller.background world) :
    Holds (controller.startUp surroundings world).2.1.background
      (controller.startUp surroundings world).2.2 := by
  have registered := sustains.register controller holds
  simp only [Controller.startUp, Controller.callRegister]
  split
  · exact registered
  · next registration _ =>
      rcases adoptPrevious_frame registration.previous _ _ with ⟨running, aggregator, adopted⟩
      rw [adopted, background_publish]
      exact sustains.requestMissing registered

end Surroundings.Sustains

/-! ## Without a pause -/

namespace Surroundings

/-- No call of the world is made again. -/
structure AnswersAtOnce (surroundings : Surroundings World) : Prop where
  register : ∀ world, Concludes isTransient (surroundings.register world).1
  request : ∀ request world, Concludes isTransient (surroundings.request request world).1
  perform : ∀ plan (work : Work) world,
    Concludes isTransient (work.perform surroundings plan world).1

/-- The calls that the controller makes itself keep a property of the world. -/
structure Keeps (surroundings : Surroundings World) (Holds : World → Prop) : Prop where
  register : ∀ world, Holds world → Holds (surroundings.register world).2
  request : ∀ request world, Holds world → Holds (surroundings.request request world).2
  ready : ∀ replica world, Holds world → Holds (surroundings.ready replica world).2
  metrics : ∀ replica world, Holds world → Holds (surroundings.metrics replica world).2

end Surroundings

/-- Certain results lie ready, no job has begun, no call was lost, and a property of the world
holds. -/
structure Undisturbed (finished : List (Work × Except ClusterError Unit)) (Holds : World → Prop)
    (background : Background) (world : World) : Prop where
  finished : background.finished = finished
  unstarted : ∀ job ∈ background.jobs, job.stage = .unstarted
  intact : background.lost = []
  holds : Holds world

variable {surroundings : Surroundings World} {Holds : World → Prop} {world : World}
  {finished : List (Work × Except ClusterError Unit)} {background : Background}

namespace Undisturbed

theorem inWorld (undisturbed : Undisturbed finished Holds background world) {later : World}
    (holds : Holds later) : Undisturbed finished Holds background later :=
  ⟨undisturbed.finished, undisturbed.unstarted, undisturbed.intact, holds⟩

theorem start (undisturbed : Undisturbed finished Holds background world) (work : Work) :
    Undisturbed finished Holds (background.start work) world := by
  have added (guarding : Option Nat) (job : Job)
      (member : job ∈ background.jobs ++ [⟨work, guarding, .unstarted⟩]) :
      job.stage = .unstarted := by
    rcases List.mem_append.mp member with old | new
    · exact undisturbed.unstarted job old
    · obtain rfl := List.mem_singleton.mp new
      rfl
  simp only [Background.start]
  split
  · exact ⟨undisturbed.finished, added _, undisturbed.intact, undisturbed.holds⟩
  · exact ⟨undisturbed.finished, added _, undisturbed.intact, undisturbed.holds⟩

theorem of_upToStop (undisturbed : UpToStop (Undisturbed finished Holds) background world) :
    Undisturbed finished Holds background world := by
  rcases undisturbed with undisturbed | ⟨reached, victim, undisturbed, rfl⟩
  · exact undisturbed
  · exact undisturbed.start (.stop victim)

end Undisturbed

namespace Controller

variable {controller : Controller}

theorem Finished.undisturbed {work : Work} {result : Except ClusterError Unit} {now : Nat}
    {after : Controller} (finishing : Finished controller now work result after)
    (undisturbed : Undisturbed finished Holds controller.background world) :
    Undisturbed finished Holds after.background world := by
  cases finishing with
  | @launched replica _ _ landed =>
      cases landed with
      | discarded => exact undisturbed
      | adopted => exact undisturbed
      | failed => exact undisturbed.start (.release replica.id)
  | stopped => exact undisturbed
  | released => exact undisturbed

/-- A call of the cluster that no attempt follows is one call of the world. -/
theorem callBeside_of_concludes {Value : Type}
    {operation : World → Except ClusterError Value × World} {state : Background × World}
    (concludes : Concludes isTransient (operation state.2).1) :
    controller.callBeside surroundings operation state =
      ((operation state.2).1.mapError .nonRetryable, state.1, (operation state.2).2) := by
  simp only [callBeside]
  exact call_of_concludes concludes

theorem callRegister_eq (answers : surroundings.AnswersAtOnce) (controller : Controller)
    (world : World) :
    controller.callRegister surroundings world =
      ((surroundings.register world).1, controller.background,
        (surroundings.register world).2) := by
  simp only [callRegister, callBeside_of_concludes (answers.register _)]
  cases (surroundings.register world).1 <;> rfl

end Controller

/-- Where the world answers at once, the controller disturbs nothing in the background. -/
theorem Surroundings.AnswersAtOnce.sustains (answers : surroundings.AnswersAtOnce)
    (keeps : surroundings.Keeps Holds) : surroundings.Sustains (Undisturbed finished Holds) where
  guards _ _ undisturbed :=
    ⟨undisturbed.finished, undisturbed.unstarted, undisturbed.intact, undisturbed.holds⟩
  start work _ undisturbed := undisturbed.start work
  register controller background world undisturbed := by
    rw [Controller.callBeside_of_concludes (answers.register world)]
    exact undisturbed.inWorld (keeps.register world undisturbed.holds)
  request controller request background world undisturbed := by
    rw [Controller.callBeside_of_concludes (answers.request request world)]
    exact undisturbed.inWorld (keeps.request request world undisturbed.holds)
  ready replica undisturbed :=
    undisturbed.inWorld (keeps.ready replica _ undisturbed.holds)
  metrics replica undisturbed :=
    undisturbed.inWorld (keeps.metrics replica _ undisturbed.holds)

/-! ## Jobs -/

theorem Work.attempt_eq (answers : surroundings.AnswersAtOnce) (settings : ControllerSettings)
    (work : Work) (left : Nat) (delay : Duration) (world : World) :
    work.attempt surroundings settings left delay world =
      (.finished (work.perform surroundings settings.plan world).1,
        (work.perform surroundings settings.plan world).2) := by
  simp only [Work.attempt, judge_of_concludes (answers.perform settings.plan work world)]
  cases (work.perform surroundings settings.plan world).1 <;> rfl

namespace Background

/-- A job that has not begun comes to its result in one step: the launcher's breaker refuses it, or
its work is performed. -/
theorem stepJob_finished (answers : surroundings.AnswersAtOnce) (settings : ControllerSettings)
    {job : Job} (unstarted : job.stage = .unstarted) (background : Background) (world : World) :
    ∃ result breakers retired,
      (stepJob surroundings settings (background, world) job).1 =
          { background with
            breakers := breakers
            retired := retired
            finished := background.finished ++ [(job.work, result)] } ∧
        (result = .error (.circuitOpen launcherKey) ∧
            (stepJob surroundings settings (background, world) job).2 = world ∨
          job.work.perform surroundings settings.plan world =
            (result, (stepJob surroundings settings (background, world) job).2)) := by
  simp only [stepJob, Job.isReady, unstarted, if_true, begin, Work.attempt_eq answers, keep]
  cases job.guarding with
  | none => exact ⟨_, _, _, rfl, Or.inr rfl⟩
  | some number =>
      rcases background.changeLauncher_frame number
        (fun breaker => (breaker.allow (surroundings.clock world)).2) with
        ⟨breakers, retired, asked⟩
      simp only [asked]
      split
      · rcases changeLauncher_frame _ number _ with ⟨breakers, retired, reported⟩
        exact ⟨_, _, _, reported, Or.inr rfl⟩
      · exact ⟨_, _, _, rfl, Or.inl ⟨rfl, rfl⟩⟩

end Background

end Fleet
