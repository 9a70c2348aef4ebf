import Fleet.Controller.Running
import Fleet.Proofs.Controller.Background
import Mathlib.Data.List.Induction

/-!
# Runs of the controller

Between its steps the controller meets an arbitrary world: a step names what the controller takes
in, and any world may answer it. So a run covers every order of rounds, events and results, every
progress of the background and every passing of time. The functions that run the controller are
such runs.
-/

namespace Fleet.Controller

variable {World : Type}

/-- What the controller takes in with a step. -/
inductive Label where
  | start (registration : Except ClusterError Registration)
  | tick
  | event (event : ClusterEvent)
  | outcome (work : Work) (result : Except ClusterError Unit)
  /-- A job in flight goes on, or does not. -/
  | progress

namespace Label

/-- The containers that a step grants, in their order. -/
def grants : Label → List String
  | start (.ok registration) => registration.previous.map Allocation.replica
  | event (.allocated allocations) => allocations.map Allocation.replica
  | _ => []

/-- The containers whose end a step reports. -/
def completions : Label → List String
  | event (.completed completions) => completions.map Completion.replica
  | event (.launchFailed replica _) => [replica]
  | _ => []

/-- The containers that a step shows to be given back: the allocator took them, or does not know
them. -/
def releases : Label → List String
  | outcome (.release id) (.ok ()) => [id]
  | outcome (.release id) (.error (.unknownReplica _)) => [id]
  | _ => []

end Label

/-- The controller with other results lying ready. -/
def withFinished (controller : Controller) (finished : List (Work × Except ClusterError Unit)) :
    Controller :=
  { controller with background := { controller.background with finished := finished } }

theorem outstanding_withFinished {controller : Controller}
    {before after : List (Work × Except ClusterError Unit)} {work : Work}
    {result : Except ClusterError Unit}
    (ready : controller.background.finished = before ++ (work, result) :: after) :
    controller.background.outstanding =
      work ::ₘ (controller.withFinished (before ++ after)).background.outstanding := by
  simp only [withFinished, Background.outstanding, Background.tasks, ready, List.map_append,
    ← Multiset.coe_add, List.map_cons, ← Multiset.cons_coe, ← Multiset.singleton_add]
  abel

/-- When any one job goes on, the same calls are outstanding as before. -/
theorem progress_evolves (surroundings : Surroundings World) {controller : Controller}
    {before after : List Job} {job : Job}
    (flying : controller.background.jobs = before ++ job :: after) (world : World) :
    Background.Evolves 0 controller.background
      (Background.stepJob surroundings controller.settings
        ({ controller.background with jobs := before ++ after }, world) job).1 := by
  have stepped := Background.stepJob_evolves surroundings controller.settings
    ({ controller.background with jobs := before ++ after }, world) job
  refine ⟨?_, stepped.breaker⟩
  rw [stepped.outstanding]
  simp only [Background.outstanding, Background.tasks, flying, List.map_append,
    ← Multiset.coe_add, List.map_cons, ← Multiset.cons_coe, ← Multiset.singleton_add]
  abel

/-- One step of the controller in some world. A result that lies ready may be taken before the
older ones, and any job may go on before the others. -/
inductive Step (surroundings : Surroundings World) : Label → Controller → Controller → Prop
  | start {controller : Controller} (world : World) :
      Step surroundings (.start (controller.callRegister surroundings world).1) controller
        (controller.startUp surroundings world).2.1
  | tick {controller : Controller} (world : World) :
      Step surroundings .tick controller (controller.tick surroundings world).1
  | event {controller : Controller} (event : ClusterEvent) (world : World) :
      Step surroundings (.event event) controller
        (controller.handleEvent surroundings event world).1
  | outcome {controller : Controller} {before after : List (Work × Except ClusterError Unit)}
      {work : Work} {result : Except ClusterError Unit}
      (ready : controller.background.finished = before ++ (work, result) :: after)
      (world : World) :
      Step surroundings (.outcome work result) controller
        ((controller.withFinished (before ++ after)).onFinished work result
          (surroundings.epoch world))
  | progress {controller : Controller} {before after : List Job} {job : Job}
      (flying : controller.background.jobs = before ++ job :: after) (world : World) :
      Step surroundings .progress controller
        { controller with
          background := (Background.stepJob surroundings controller.settings
            ({ controller.background with jobs := before ++ after }, world) job).1 }

/-- The controllers that the labels may lead to, one step for each, from some settings. -/
inductive Run (surroundings : Surroundings World) : List Label → Controller → Prop
  | initial (settings : ControllerSettings) : Run surroundings [] (ofSettings settings)
  | step {labels : List Label} {label : Label} {before after : Controller}
      (run : Run surroundings labels before) (step : Step surroundings label before after) :
      Run surroundings (labels ++ [label]) after

/-- The controllers that the labels may lead to, one step for each, from a controller at work. -/
inductive Course (surroundings : Surroundings World) (origin : Controller) :
    List Label → Controller → Prop
  | stay : Course surroundings origin [] origin
  | step {labels : List Label} {label : Label} {before after : Controller}
      (course : Course surroundings origin labels before)
      (step : Step surroundings label before after) :
      Course surroundings origin (labels ++ [label]) after

/-- A run goes on with every course from where it is. -/
theorem Run.extend {surroundings : Surroundings World} {earlier later : List Label}
    {before after : Controller} (run : Run surroundings earlier before)
    (course : Course surroundings before later after) :
    Run surroundings (earlier ++ later) after := by
  induction course with
  | stay => simpa using run
  | step _ step ih => simpa using ih.step step

/-- A run with a last label makes its step last. -/
theorem Run.last {surroundings : Surroundings World} {labels : List Label} {label : Label}
    {after : Controller} (run : Run surroundings (labels ++ [label]) after) :
    ∃ before, Run surroundings labels before ∧ Step surroundings label before after := by
  generalize joined : labels ++ [label] = all at run
  cases run with
  | initial => simp at joined
  | step run step =>
      obtain ⟨rfl, same⟩ := List.append_inj' joined rfl
      obtain rfl := List.singleton_inj.mp same
      exact ⟨_, run, step⟩

/-- A run passes a controller after each part of its labels. -/
theorem Run.split {surroundings : Surroundings World} {earlier later : List Label}
    {after : Controller} (run : Run surroundings (earlier ++ later) after) :
    ∃ before, Run surroundings earlier before ∧ Course surroundings before later after := by
  induction later using List.reverseRecOn generalizing after with
  | nil => exact ⟨after, by simpa using run, .stay⟩
  | append_singleton rest label ih =>
      rw [← List.append_assoc] at run
      rcases run.last with ⟨middle, passed, step⟩
      rcases ih passed with ⟨before, first, course⟩
      exact ⟨before, first, course.step step⟩

/-- Surroundings at a standstill: every call succeeds, no replica is ready or has metrics, and the
registration hands over the given containers. -/
def standstill (previous : List Allocation) : Surroundings Unit where
  clock _ := ⟨0⟩
  epoch _ := 0
  register world := (.ok ⟨previous, {}⟩, world)
  unregister world := (.ok (), world)
  request _ world := (.ok (), world)
  release _ world := (.ok (), world)
  launch _ _ world := (.ok (), world)
  stop _ world := (.ok (), world)
  ready _ world := (some false, world)
  metrics _ world := (none, world)
  receive world := (none, world)
  isCancelled _ := false
  isEnding _ := false
  rest _ _ world := world
  await _ _ world := world

/-- A container of which only the name matters. -/
def bareAllocation (replica : String) : Allocation := ⟨replica, "", "", {}⟩

/-- Settings without retries and without a cooldown. -/
def plainSettings : ControllerSettings where
  policy := { cooldown := .ofSeconds 0 }
  capability := {}
  placement := ⟨""⟩
  tickInterval := .ofSeconds 1
  allocationTimeout := .ofSeconds 60
  breaker := {}
  retry := ⟨0, .ofSeconds 0, .ofSeconds 0, 0⟩
  plan := .ofCommand ""

/-- A container is granted, and its launch is started. -/
def launchStarts : List Label :=
  [.start (.ok ⟨[], {}⟩), .event (.allocated [bareAllocation "first"])]

/-- The launch succeeds, and its result is taken. -/
def launchSucceeds : List Label :=
  [.progress, .outcome (.launch (bareAllocation "first").toReplica) (.ok ())]

/-- The completion of the container is reported. -/
def completionComes : Label := .event (.completed [⟨"first", .failed, none, ""⟩])

/-- The controller while it launches its first container. -/
def launchingFirst : Controller :=
  (((ofSettings plainSettings).startUp (standstill []) ()).2.1.handleEvent (standstill [])
    (.allocated [bareAllocation "first"]) ()).1

theorem run_launchingFirst : Run (standstill []) launchStarts launchingFirst :=
  ((@Run.initial Unit (standstill []) plainSettings).step (.start ())).step
    (.event (.allocated [bareAllocation "first"]) ())

/-- The containers that a run granted, in their order. -/
def grants (labels : List Label) : List String := labels.flatMap Label.grants

/-- The containers whose end was reported in a run. -/
def completions (labels : List Label) : List String := labels.flatMap Label.completions

/-- The containers that were given back in a run. -/
def releases (labels : List Label) : List String := labels.flatMap Label.releases

@[simp]
theorem grants_append (labels more : List Label) :
    grants (labels ++ more) = grants labels ++ grants more :=
  List.flatMap_append

@[simp]
theorem grants_singleton (label : Label) : grants [label] = label.grants :=
  List.flatMap_singleton ..

@[simp]
theorem completions_append (labels more : List Label) :
    completions (labels ++ more) = completions labels ++ completions more :=
  List.flatMap_append

@[simp]
theorem completions_singleton (label : Label) : completions [label] = label.completions :=
  List.flatMap_singleton ..

@[simp]
theorem releases_append (labels more : List Label) :
    releases (labels ++ more) = releases labels ++ releases more :=
  List.flatMap_append

@[simp]
theorem releases_singleton (label : Label) : releases [label] = label.releases :=
  List.flatMap_singleton ..

end Fleet.Controller

/-! ## The functions that run the controller -/

namespace Fleet.Background

variable {World : Type}

/-- The background with jobs ahead of its own. -/
def behind (jobs : List Job) (background : Background) : Background :=
  { background with jobs := jobs ++ background.jobs }

theorem changeLauncher_behind (jobs : List Job) (background : Background) (number : Nat)
    (change : Breaker → Breaker) :
    (background.behind jobs).changeLauncher number change =
      (background.changeLauncher number change).behind jobs := by
  by_cases retired : number < background.retired.length <;>
    simp [changeLauncher, behind, retired]

theorem keep_behind (jobs : List Job) (background : Background) (job : Job) (now : Instant)
    (progress : Progress) :
    (background.behind jobs).keep job now progress =
      (background.keep job now progress).behind jobs := by
  cases progress with
  | waiting stage => simp only [keep, behind, List.append_assoc]
  | lost => rfl
  | finished result =>
      cases guarding : job.guarding with
      | none =>
          simp only [keep, guarding]
          rfl
      | some number =>
          simp only [keep, guarding]
          exact changeLauncher_behind jobs
            { background with finished := background.finished ++ [(job.work, result)] } _ _

theorem begin_behind (surroundings : Surroundings World) (settings : ControllerSettings)
    (jobs : List Job) (job : Job) (background : Background) (world : World) :
    begin surroundings settings job (background.behind jobs) world =
      ((begin surroundings settings job background world).1.behind jobs,
        (begin surroundings settings job background world).2) := by
  simp only [begin]
  cases job.guarding with
  | none => simp only [keep_behind]
  | some number =>
      have same : (background.behind jobs).launcher number = background.launcher number := rfl
      simp only [same, changeLauncher_behind, keep_behind]
      split <;> rfl

theorem stepJob_behind (surroundings : Surroundings World) (settings : ControllerSettings)
    (jobs : List Job) (state : Background × World) (job : Job) :
    stepJob surroundings settings (state.1.behind jobs, state.2) job =
      ((stepJob surroundings settings state job).1.behind jobs,
        (stepJob surroundings settings state job).2) := by
  rcases state with ⟨background, world⟩
  simp only [stepJob]
  split
  · cases job.stage with
    | unstarted => exact begin_behind surroundings settings jobs job background world
    | waiting left delay wake => simp only [resume, keep_behind]
  · simp only [behind, List.append_assoc]

end Fleet.Background

namespace Fleet.Controller

variable {World : Type} {surroundings : Surroundings World} {labels : List Label}

/-- When jobs go on one after the other, each is a step of its own. -/
theorem Run.foldl_stepJob {controller : Controller} (jobs : List Job)
    (state : Background × World)
    (run : Run surroundings labels { controller with background := state.1.behind jobs }) :
    ∃ more, Run surroundings (labels ++ more)
      { controller with
        background :=
          (jobs.foldl (Background.stepJob surroundings controller.settings) state).1 } := by
  induction jobs generalizing labels state with
  | nil => exact ⟨[], by simpa [Background.behind] using run⟩
  | cons job rest ih =>
      have step : Step surroundings .progress
          { controller with background := state.1.behind (job :: rest) }
          { controller with
            background := (Background.stepJob surroundings controller.settings
              (state.1.behind rest, state.2) job).1 } :=
        @Step.progress _ _ _ [] (rest ++ state.1.jobs) job rfl state.2
      rw [Background.stepJob_behind] at step
      rcases ih _ (run.step step) with ⟨more, finished⟩
      exact ⟨.progress :: more, by simpa using finished⟩

theorem Run.stay {controller : Controller} (run : Run surroundings labels controller) :
    ∃ more, Run surroundings (labels ++ more) controller :=
  ⟨[], by simpa using run⟩

/-- While the background moves on, the controller makes steps of a run. -/
theorem Run.advanceBackground {controller : Controller}
    (run : Run surroundings labels controller) (pass : Handle → Instant → World → World)
    (limit : Instant) (world : World) :
    ∃ more, Run surroundings (labels ++ more)
      (controller.advanceBackground surroundings pass limit world).1 := by
  simp only [Controller.advanceBackground]
  split
  · apply Run.foldl_stepJob
    simpa [Background.behind] using run
  · exact run.stay

theorem Run.takeFinished? {controller after : Controller} {world : World}
    (run : Run surroundings labels controller)
    (taken : controller.takeFinished? surroundings world = some after) :
    ∃ more, Run surroundings (labels ++ more) after := by
  unfold Controller.takeFinished? at taken
  split at taken
  · cases taken
  · next work result rest ready =>
      obtain rfl := Option.some.inj taken
      have first : controller.background.finished = [] ++ (work, result) :: rest := ready
      exact ⟨[.outcome work result], run.step (.outcome first world)⟩

theorem Run.settle {controller : Controller} (run : Run surroundings labels controller)
    (steps : Nat) (world : World) :
    ∃ more, Run surroundings (labels ++ more)
      (settle surroundings steps controller world).1 := by
  induction steps generalizing labels controller world with
  | zero => exact run.stay
  | succ steps ih =>
      simp only [Controller.settle]
      split
      · next event _ _ =>
          rcases ih (run.step (.event event _)) _ with ⟨more, settled⟩
          exact ⟨.event event :: more, by simpa using settled⟩
      · split
        · next taken =>
            rcases run.takeFinished? taken with ⟨first, stepped⟩
            rcases ih stepped _ with ⟨more, settled⟩
            exact ⟨first ++ more, by simpa using settled⟩
        · split
          · exact run.stay
          · rcases run.advanceBackground surroundings.rest _ _ with ⟨first, advanced⟩
            rcases ih advanced _ with ⟨more, settled⟩
            exact ⟨first ++ more, by simpa using settled⟩

theorem Run.reconcile {controller : Controller} (run : Run surroundings labels controller)
    (steps : Nat) (due : Instant) (world : World) :
    ∃ more, Run surroundings (labels ++ more)
      (reconcile surroundings steps due controller world).1 := by
  induction steps generalizing labels controller due world with
  | zero => exact run.stay
  | succ steps ih =>
      unfold Controller.reconcile
      split
      · exact run.stay
      · split
        · next event _ _ =>
            rcases ih (run.step (.event event _)) _ _ with ⟨more, reconciled⟩
            exact ⟨.event event :: more, by simpa using reconciled⟩
        · split
          · next taken =>
              rcases run.takeFinished? taken with ⟨first, stepped⟩
              rcases ih stepped _ _ with ⟨more, reconciled⟩
              exact ⟨first ++ more, by simpa using reconciled⟩
          · simp only
            split
            · exact run.stay
            · split
              · rcases ih (run.step (.tick _)) _ _ with ⟨more, reconciled⟩
                exact ⟨.tick :: more, by simpa using reconciled⟩
              · rcases run.advanceBackground surroundings.await due _ with ⟨first, advanced⟩
                rcases ih advanced _ _ with ⟨more, reconciled⟩
                exact ⟨first ++ more, by simpa using reconciled⟩

end Fleet.Controller
