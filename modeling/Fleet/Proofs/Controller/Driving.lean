import Fleet.Proofs.Cluster.Local
import Fleet.Proofs.Controller.Custody
import Fleet.Proofs.Controller.Foreground

/-!
# A controller beside its local cluster

The world of the controller holds a local cluster, and every call of the world is an operation of
it. The cluster answers at once, so that no call is made again. Its processes end whenever they
like: between the steps of the controller, and during its calls.
-/

namespace Fleet

variable {World : Type}

/-- A call of the world is an operation of its cluster, after which some processes end. -/
def LocalCluster.Serves {Value : Type} (cluster : World → LocalCluster)
    (operation : LocalCluster → Value × LocalCluster) (call : World → Value × World)
    (world : World) : Prop :=
  (call world).1 = (operation (cluster world)).1 ∧
    (operation (cluster world)).2.Reaped (cluster (call world).2)

/-- The surroundings are those of a local cluster. Its processes may end during any call, and the
logs of a container can be created or not. -/
structure Surroundings.RunOn (surroundings : Surroundings World) (cluster : World → LocalCluster) :
    Prop where
  register : ∀ world, LocalCluster.Serves cluster LocalCluster.register surroundings.register world
  request : ∀ request world,
    LocalCluster.Serves cluster (·.request request) (surroundings.request request) world
  release : ∀ id world, LocalCluster.Serves cluster (·.release id) (surroundings.release id) world
  launch : ∀ replica context world, ∃ logs,
    LocalCluster.Serves cluster (·.launch replica.id logs) (surroundings.launch replica context)
      world
  stop : ∀ replica world,
    LocalCluster.Serves cluster (·.stop replica.id) (surroundings.stop replica) world
  receive : ∀ world, LocalCluster.Serves cluster LocalCluster.next? surroundings.receive world
  ready : ∀ replica world, (cluster world).Reaped (cluster (surroundings.ready replica world).2)
  metrics : ∀ replica world,
    (cluster world).Reaped (cluster (surroundings.metrics replica world).2)

namespace Controller

variable {surroundings : Surroundings World} {cluster : World → LocalCluster} {id : String}

/-! ## Steps of both -/

/-- A step of the controller in its world. -/
inductive Advance (surroundings : Surroundings World) :
    Label → Controller × World → Controller × World → Prop
  | start (controller : Controller) (world : World) :
      Advance surroundings (.start (controller.callRegister surroundings world).1)
        (controller, world) (controller.startUp surroundings world).2
  | tick (controller : Controller) (world : World) :
      Advance surroundings .tick (controller, world) (controller.tick surroundings world)
  | deliver (controller : Controller) {event : ClusterEvent} {world later : World}
      (received : surroundings.receive world = (some event, later)) :
      Advance surroundings (.event event) (controller, world)
        (controller.handleEvent surroundings event later)
  | take {controller : Controller} {before after : List (Work × Except ClusterError Unit)}
      {work : Work} {result : Except ClusterError Unit}
      (ready : controller.background.finished = before ++ (work, result) :: after)
      (world : World) :
      Advance surroundings (.outcome work result) (controller, world)
        ((controller.withFinished (before ++ after)).onFinished work result
          (surroundings.epoch world), world)
  | progress {controller : Controller} {before after : List Job} {job : Job}
      (flying : controller.background.jobs = before ++ job :: after) (world : World) :
      Advance surroundings .progress (controller, world)
        ({ controller with
            background := (Background.stepJob surroundings controller.settings
              ({ controller.background with jobs := before ++ after }, world) job).1 },
          (Background.stepJob surroundings controller.settings
            ({ controller.background with jobs := before ++ after }, world) job).2)

/-- A controller and its world, from the first state on. Between the steps of the controller
processes end. -/
inductive Driven (surroundings : Surroundings World) (cluster : World → LocalCluster) :
    List Label → Controller × World → Prop
  | initial (settings : ControllerSettings) {world : World} {nodes : List NodeConfig}
      (fresh : cluster world = { nodes := nodes }) :
      Driven surroundings cluster [] (ofSettings settings, world)
  | advance {labels : List Label} {label : Label} {before after : Controller × World}
      (driven : Driven surroundings cluster labels before)
      (advance : Advance surroundings label before after) :
      Driven surroundings cluster (labels ++ [label]) after
  | pass {labels : List Label} {controller : Controller} {world later : World}
      (driven : Driven surroundings cluster labels (controller, world))
      (reaped : (cluster world).Reaped (cluster later)) :
      Driven surroundings cluster labels (controller, later)

theorem Advance.step {label : Label} {before after : Controller × World}
    (advance : Advance surroundings label before after) :
    Step surroundings label before.1 after.1 := by
  cases advance with
  | start controller world => exact .start world
  | tick controller world => exact .tick world
  | deliver controller received => exact .event _ _
  | take ready world => exact .outcome ready world
  | progress flying world => exact .progress flying world

theorem Driven.run {labels : List Label} {state : Controller × World}
    (driven : Driven surroundings cluster labels state) : Run surroundings labels state.1 := by
  induction driven with
  | initial settings => exact .initial settings
  | advance _ advance ih => exact ih.step advance.step
  | pass _ _ ih => exact ih

theorem released_of_outcome {work : Work} {result : Except ClusterError Unit}
    (shown : id ∈ (Label.outcome work result).releases) :
    work.released? = some id := by
  cases work with
  | launch | stop => exact absurd shown List.not_mem_nil
  | release released =>
      cases result with
      | ok =>
          obtain rfl := List.mem_singleton.mp shown
          rfl
      | error failure =>
          cases failure with
          | unknownReplica =>
              obtain rfl := List.mem_singleton.mp shown
              rfl
          | _ => exact absurd shown List.not_mem_nil

end Controller

/-! ## What calls do to the cluster -/

/-- The cluster bears out the result of a call: a container that was launched has its place, or its
end is still to be heard of, and one that was given back has no place. -/
structure LocalCluster.BearsOut (cluster : LocalCluster) (work : Work)
    (result : Except ClusterError Unit) : Prop where
  launched : ∀ replica, work = .launch replica → result = .ok () → cluster.Accounts replica.id
  released : ∀ id ∈ (Controller.Label.outcome work result).releases, id ∉ cluster.placements.keys

section Calls

open ClusterError RetryPolicy

variable {surroundings : Surroundings World} {cluster : World → LocalCluster} {world : World}
  {grants ends returned : List String} {origin : LocalCluster}

theorem LocalCluster.Serves.shift {Value : Type}
    {operation : LocalCluster → Value × LocalCluster} {call : World → Value × World}
    (serves : Serves cluster operation call world)
    (shift : Shift grants ends returned origin (operation (cluster world)).2) :
    Shift grants ends returned origin (cluster (call world).2) :=
  shift.then_quiet (serves.2.quiet shift.sound)

namespace Surroundings.RunOn

variable (runOn : surroundings.RunOn cluster)
include runOn

theorem answersAtOnce : surroundings.AnswersAtOnce where
  register world := by
    rw [(runOn.register world).1]
    exact LocalCluster.concludes_register _
  request request world := by
    rw [(runOn.request request world).1]
    exact LocalCluster.concludes_request _ request
  perform plan work world := by
    cases work with
    | launch replica =>
        rcases runOn.launch replica (plan.contextFor replica.id) world with ⟨logs, serves⟩
        simp only [Work.perform]
        rw [serves.1]
        exact LocalCluster.concludes_launch _ replica.id logs
    | stop replica =>
        simp only [Work.perform]
        rw [(runOn.stop replica world).1]
        exact LocalCluster.concludes_stop _ replica.id
    | release id =>
        simp only [Work.perform]
        rw [(runOn.release id world).1]
        exact LocalCluster.concludes_release _ id

theorem keeps : surroundings.Keeps fun world =>
    LocalCluster.Shift grants ends returned origin (cluster world) where
  register world shift :=
    (runOn.register world).shift (shift.then_quiet shift.sound.register)
  request request world shift :=
    (runOn.request request world).shift (shift.then_quiet (shift.sound.request request))
  ready replica world shift := shift.then_quiet ((runOn.ready replica world).quiet shift.sound)
  metrics replica world shift := shift.then_quiet ((runOn.metrics replica world).quiet shift.sound)

/-- Performing a call gives back at most the container of a release, and the cluster bears out its
result. -/
theorem perform (plan : LaunchPlan) (work : Work) (sound : (cluster world).Sound)
    (named : ∀ id, work.released? = some id → (cluster world).Named id) :
    ∃ given, LocalCluster.Shift [] [] given (cluster world)
        (cluster (work.perform surroundings plan world).2) ∧
      (∀ id ∈ given, id ∈ (cluster world).placements.keys ∧ work.released? = some id) ∧
      (cluster (work.perform surroundings plan world).2).BearsOut work
        (work.perform surroundings plan world).1 := by
  cases work with
  | launch replica =>
      rcases runOn.launch replica (plan.contextFor replica.id) world with ⟨logs, serves⟩
      have launching := sound.launch replica.id logs
      refine ⟨[], serves.shift launching, List.forall_mem_nil _, ?_, List.forall_mem_nil _⟩
      rintro _ ⟨⟩ launched
      -- The container had its place when its process started, and the process may have ended since.
      have placed := LocalCluster.placed_of_launched (serves.1.symm.trans launched)
      exact (serves.2.quiet launching.sound).accounts (Or.inl placed)
  | stop replica =>
      refine ⟨[], (runOn.stop replica world).shift (sound.stop replica.id),
        List.forall_mem_nil _, ?_, List.forall_mem_nil _⟩
      rintro _ ⟨⟩
  | release id =>
      have releasing := sound.release id
      refine ⟨_, (runOn.release id world).shift releasing, ?_, ?_, ?_⟩
      · intro other given
        split at given
        · next placed =>
            obtain rfl := List.mem_singleton.mp given
            exact ⟨SortedMap.contains_iff_mem_keys.mp placed, rfl⟩
        · exact absurd given List.not_mem_nil
      · rintro _ ⟨⟩
      · intro other shown
        obtain rfl := Option.some.inj (Controller.released_of_outcome shown)
        exact ((runOn.release id world).2.quiet releasing.sound).not_placed
          (releasing.named (named id rfl)) (LocalCluster.not_placed_release _ id)

end Surroundings.RunOn

end Calls

end Fleet
