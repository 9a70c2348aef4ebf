import Fleet.Proofs.Controller.Commitment
import Fleet.Proofs.Controller.Driving
import Fleet.Proofs.Controller.Seniority

/-!
# Who is asked to stop

Only a round asks a replica to stop, and one at most: the first one of the running set that is not
being stopped already. The call runs in the background and may be made again, so that the launcher
hears of a stop in later steps, but of no other one.
-/

namespace Fleet

/-- The replicas that were asked to stop, and whose stop has not come to a result. -/
def Background.stops (background : Background) : Multiset Replica :=
  background.outstanding.filterMap Work.stopped?

theorem Background.start_stops (background : Background) (work : Work) :
    (background.start work).stops =
      (work.stopped?.toList : Multiset Replica) + background.stops := by
  have started := (background.start_evolves work).filterMap_eq Work.stopped?
  rw [stops, started]
  cases work <;> rfl

namespace Controller

variable {World : Type} {surroundings : Surroundings World} {before after : Controller}
  {label : Label}

/-- The stop whose result a step takes. -/
def Label.stopped? : Label → Option Replica
  | outcome work _ => work.stopped?
  | _ => none

/-- A replica is the first one of the running set that is not being stopped, as probing leaves it,
and marked as being stopped. -/
def Picks (controller : Controller) (replica : Replica) : Prop :=
  ∃ oldest probed, controller.running.find? Replica.isActive = some oldest ∧
    Readied oldest probed ∧ replica = { probed with phase := .stopping }

/-! ## Who is picked -/

theorem Halted.stops_eq {victim : Option Replica} (halted : Halted before victim after) :
    after.background.stops = (victim.toList : Multiset Replica) + before.background.stops := by
  cases halted with
  | idle => exact (zero_add _).symm
  | stopped => exact before.background.start_stops _

theorem Halted.found {victim : Option Replica} {replica : Replica}
    (halted : Halted before victim after) (member : replica ∈ victim) :
    ∃ oldest, before.running.find? Replica.isActive = some oldest ∧
      replica = { oldest with phase := .stopping } := by
  cases halted with
  | idle => cases member
  | stopped found =>
      obtain rfl := Option.some.inj member
      exact ⟨_, found, rfl⟩

theorem Acted.halted {target : Nat} {world : World}
    (acted : Acted surroundings before target world after) :
    ∃ victim : Option Replica,
      after.background.stops = (victim.toList : Multiset Replica) + before.background.stops ∧
        ∀ replica ∈ victim, ∃ oldest, before.running.find? Replica.isActive = some oldest ∧
          replica = { oldest with phase := .stopping } := by
  cases acted with
  | raised =>
      refine ⟨none, ?_, by simp⟩
      exact (congrArg (Multiset.filterMap Work.stopped?)
        (requestMissing_requested ..).outstanding).trans (zero_add _).symm
  | lowered =>
      rcases (before.rescale "Scale down" target (surroundings.epoch world)).stopOldest_halted with
        ⟨victim, halted⟩
      exact ⟨victim, halted.stops_eq, fun _ => halted.found⟩
  | trimmed =>
      rcases before.stopOldest_halted with ⟨victim, halted⟩
      exact ⟨victim, halted.stops_eq, fun _ => halted.found⟩
  | kept => exact ⟨none, (zero_add _).symm, by simp⟩

/-- Up to the decision of a round only releases are started. -/
theorem assessed_stops (surroundings : Surroundings World) (controller : Controller)
    (world : World) :
    (controller.assessed surroundings world).2.1.background.stops =
      controller.background.stops := by
  have replenished := replenish_replenished surroundings controller (surroundings.clock world)
    world
  have sampling := assessed_sampled surroundings controller world
  simp only [Background.stops]
  rw [sampling.outstanding_eq, replenished.outstanding, Multiset.filterMap_add]
  simp [List.filterMap_map, Function.comp_def, Work.stopped?]

/-- A round asks nobody to stop, or the first one that is not being stopped when it has probed. -/
theorem tick_asks (surroundings : Surroundings World) (controller : Controller) (world : World) :
    ∃ victim : Option Replica,
      (controller.tick surroundings world).1.background.stops =
          (victim.toList : Multiset Replica) + controller.background.stops ∧
        ∀ replica ∈ victim, ∃ probed,
          (controller.assessed surroundings world).2.1.running.find? Replica.isActive =
              some probed ∧
            replica = { probed with phase := .stopping } := by
  rcases tick_acted surroundings controller world with ⟨after, ticked, acted⟩
  rcases acted.halted with ⟨victim, stops, found⟩
  refine ⟨victim, ?_, found⟩
  rw [ticked, ← assessed_stops surroundings controller world]
  exact stops

theorem tick_stops (surroundings : Surroundings World) (controller : Controller) (world : World) :
    ∃ victim : Option Replica,
      (controller.tick surroundings world).1.background.stops =
          (victim.toList : Multiset Replica) + controller.background.stops ∧
        ∀ replica ∈ victim, controller.Picks replica := by
  rcases tick_asks surroundings controller world with ⟨victim, stops, found⟩
  refine ⟨victim, stops, ?_⟩
  intro replica member
  rcases found replica member with ⟨probed, first, rfl⟩
  have sampling := assessed_sampled surroundings controller world
  rcases find?_of_forall₂_readied sampling.running first with ⟨oldest, was, readied⟩
  rw [(replenish_replenished surroundings controller (surroundings.clock world) world).frame] at was
  exact ⟨oldest, probed, was, readied, rfl⟩

/-! ## What steps do to the stops -/

theorem Granted.stops_eq {allocation : Allocation} (granted : Granted before allocation after) :
    after.background.stops = before.background.stops := by
  cases granted with
  | ignored => rfl
  | released => exact (before.background.start_stops _).trans (zero_add _)
  | accepted => exact (before.background.start_stops _).trans (zero_add _)

theorem handleEvent_stops (event : ClusterEvent) (world : World) :
    (before.handleEvent surroundings event world).1.background.stops =
      before.background.stops := by
  cases event with
  | allocated allocations =>
      exact allocated_keeps (fun reached => reached.background.stops = before.background.stops)
        allocations (fun _ _ _ _ granted held => granted.stops_eq.trans held) rfl
  | completed completions =>
      exact congrArg (Multiset.filterMap Work.stopped?)
        (onCompletions_outstanding completions before world)
  | launchFailed replica reason =>
      have ended := onCompleted_ended surroundings before (failedLaunch replica reason) world
      have released (reached : Controller) :
          (reached.start (.release replica)).background.stops = reached.background.stops :=
        (reached.background.start_stops _).trans (zero_add _)
      exact (released _).trans
        (congrArg (Multiset.filterMap Work.stopped?) ended.outstanding_eq)
  | trouble | resourcesUpdated | shutdownRequested => rfl

theorem Finished.stops_eq {work : Work} {result : Except ClusterError Unit} {now : Nat}
    (finished : Finished before now work result after) :
    after.background.stops = before.background.stops := by
  cases finished with
  | launched landed =>
      cases landed with
      | discarded => rfl
      | adopted => rfl
      | failed => exact (before.background.start_stops _).trans (zero_add _)
  | stopped => rfl
  | released => rfl

/-- The stop whose result is taken was outstanding. -/
theorem stops_withFinished {earlier later : List (Work × Except ClusterError Unit)} {work : Work}
    {result : Except ClusterError Unit}
    (ready : before.background.finished = earlier ++ (work, result) :: later) :
    before.background.stops = (work.stopped?.toList : Multiset Replica) +
      (before.withFinished (earlier ++ later)).background.stops := by
  simp only [Background.stops]
  rw [outstanding_withFinished ready, ← Multiset.singleton_add, Multiset.filterMap_add]
  cases work <;> rfl

/-- A step takes the stop whose result it handles out of the outstanding ones. It adds a stop to
them only if it is a round, and then that of the first replica that is not being stopped. -/
theorem Step.stops_eq (step : Step surroundings label before after) :
    ∃ victim : Option Replica,
      (label.stopped?.toList : Multiset Replica) + after.background.stops =
          (victim.toList : Multiset Replica) + before.background.stops ∧
        ∀ replica ∈ victim, label = .tick ∧ before.Picks replica := by
  cases step with
  | start world =>
      refine ⟨none, ?_, by simp⟩
      exact congrArg (fun outstanding => 0 + Multiset.filterMap Work.stopped? outstanding)
        (startUp_started surroundings before world).outstanding_eq
  | tick world =>
      rcases tick_stops surroundings before world with ⟨victim, stops, picked⟩
      exact ⟨victim, (zero_add _).trans stops, fun replica member => ⟨rfl, picked replica member⟩⟩
  | event event world =>
      exact ⟨none, congrArg (0 + ·) (handleEvent_stops event world), by simp⟩
  | @outcome _ earlier later work result ready world =>
      refine ⟨none, ?_, by simp⟩
      have finished := onFinished_finished (before.withFinished (earlier ++ later)) work result
        (surroundings.epoch world)
      rw [finished.stops_eq, stops_withFinished ready]
      exact (zero_add _).symm
  | progress flying world =>
      refine ⟨none, ?_, by simp⟩
      exact congrArg (0 + ·)
        (((progress_evolves surroundings flying world).filterMap_eq _).trans (zero_add _))

/-- Every outstanding stop was asked for by an earlier round, of the replica that it picked. -/
theorem Run.stop_picked {labels : List Label} {controller : Controller} {replica : Replica}
    (run : Run surroundings labels controller)
    (outstanding : replica ∈ controller.background.stops) :
    ∃ earlier later chosen, labels = earlier ++ .tick :: later ∧ Run surroundings earlier chosen ∧
      Course surroundings chosen (.tick :: later) controller ∧ chosen.Picks replica := by
  induction run with
  | initial settings => cases outstanding
  | @step labels label before after run step ih =>
      rcases step.stops_eq with ⟨victim, stops, picked⟩
      have member := Multiset.mem_add.mpr
        (Or.inr outstanding : replica ∈ (label.stopped?.toList : Multiset Replica) ∨ _)
      rw [stops, Multiset.mem_add] at member
      rcases member with new | old
      · rw [Multiset.mem_coe, Option.mem_toList] at new
        rcases picked replica new with ⟨rfl, picks⟩
        exact ⟨labels, [], before, rfl, run, .step .stay step, picks⟩
      · rcases ih old with ⟨earlier, later, chosen, rfl, first, course, picks⟩
        refine ⟨earlier, later ++ [label], chosen, by simp, first, ?_, picks⟩
        exact course.step step

end Controller

/-! ## What the launcher hears of -/

section Calls

variable {World : Type} {surroundings : Surroundings World} {calls : World → List Replica}
  {earlier : List Replica} {asked : Multiset Replica}

/-- The world keeps a list of the replicas that the launcher was asked to stop. Each of these calls
adds its replica to the list, and nothing else touches it. -/
structure Surroundings.Notes (surroundings : Surroundings World) (calls : World → List Replica) :
    Prop where
  stop : ∀ replica world, calls (surroundings.stop replica world).2 = calls world ++ [replica]
  register : ∀ world, calls (surroundings.register world).2 = calls world
  request : ∀ request world, calls (surroundings.request request world).2 = calls world
  release : ∀ id world, calls (surroundings.release id world).2 = calls world
  launch : ∀ replica context world,
    calls (surroundings.launch replica context world).2 = calls world
  ready : ∀ replica world, calls (surroundings.ready replica world).2 = calls world
  metrics : ∀ replica world, calls (surroundings.metrics replica world).2 = calls world
  receive : ∀ world, calls (surroundings.receive world).2 = calls world
  rest : ∀ handle limit world, calls (surroundings.rest handle limit world) = calls world

/-- Since an earlier list the launcher heard of certain replicas only. -/
def HearsOnly (calls : World → List Replica) (earlier : List Replica) (asked : Multiset Replica)
    (world : World) : Prop :=
  ∃ made, calls world = earlier ++ made ∧ ∀ replica ∈ made, replica ∈ asked

/-- A call stops certain replicas only. -/
def Work.StopsAmong (asked : Multiset Replica) (work : Work) : Prop :=
  ∀ replica, work.stopped? = some replica → replica ∈ asked

theorem HearsOnly.of_eq {before after : World} (heard : HearsOnly calls earlier asked before)
    (same : calls after = calls before) : HearsOnly calls earlier asked after := by
  rcases heard with ⟨made, list, among⟩
  exact ⟨made, same.trans list, among⟩

namespace Surroundings.Notes

variable (notes : surroundings.Notes calls)
include notes

theorem performs (plan : LaunchPlan) (work : Work) (world : World) (among : work.StopsAmong asked)
    (heard : HearsOnly calls earlier asked world) :
    HearsOnly calls earlier asked (work.perform surroundings plan world).2 := by
  cases work with
  | launch replica => exact heard.of_eq (notes.launch replica (plan.contextFor replica.id) world)
  | release id => exact heard.of_eq (notes.release id world)
  | stop replica =>
      rcases heard with ⟨made, list, member⟩
      refine ⟨made ++ [replica], ?_, ?_⟩
      · rw [← List.append_assoc, ← list]
        exact notes.stop replica world
      · intro other stopped
        rcases List.mem_append.mp stopped with old | new
        · exact member other old
        · obtain rfl := List.mem_singleton.mp new
          exact among other rfl

theorem callBeside {Value : Type} {operation : World → Except ClusterError Value × World}
    (silent : ∀ world, calls (operation world).2 = calls world) (controller : Controller)
    {background : Background} {world : World}
    (confined : background.Confined (Work.StopsAmong asked) (HearsOnly calls earlier asked) world) :
    (controller.callBeside surroundings operation (background, world)).2.1.Confined
      (Work.StopsAmong asked) (HearsOnly calls earlier asked)
      (controller.callBeside surroundings operation (background, world)).2.2 := by
  apply RetryPolicy.call_keeps fun reached : Background × World =>
    reached.1.Confined (Work.StopsAmong asked) (HearsOnly calls earlier asked) reached.2
  · intro reached held
    exact held.inWorld (held.holds.of_eq (silent reached.2))
  · intro duration reached held
    exact Background.pause_confined notes.performs
      (fun handle limit world heard => heard.of_eq (notes.rest handle limit world)) _ _ _ held
  · exact confined

/-- Whatever the controller does itself, only jobs in flight ask the launcher to stop a replica. -/
theorem sustains :
    surroundings.Sustains fun background world =>
      background.Confined (Work.StopsAmong asked) (HearsOnly calls earlier asked) world where
  guards breakers retired confined := confined.withGuards breakers retired
  start work other confined := by
    refine confined.start ?_
    intro replica stopped
    rw [other] at stopped
    cases stopped
  register controller _ _ confined := notes.callBeside notes.register controller confined
  request controller request _ _ confined :=
    notes.callBeside (notes.request request) controller confined
  ready replica confined := confined.inWorld (confined.holds.of_eq (notes.ready replica _))
  metrics replica confined := confined.inWorld (confined.holds.of_eq (notes.metrics replica _))

end Surroundings.Notes

namespace Controller

theorem confined_stops {controller : Controller} {world : World}
    (heard : HearsOnly calls earlier controller.background.stops world) :
    controller.background.Confined (Work.StopsAmong controller.background.stops)
      (HearsOnly calls earlier controller.background.stops) world := by
  refine ⟨?_, heard⟩
  intro job flying replica stopped
  exact (Multiset.mem_filterMap _ _).mpr
    ⟨job.work, Background.outstanding_of_flying flying, stopped⟩

/-- With a step the launcher hears of no stop but those that were outstanding before it. -/
theorem Advance.hearsOnly (notes : surroundings.Notes calls) {label : Label}
    {before after : Controller × World} (advance : Advance surroundings label before after) :
    HearsOnly calls (calls before.2) before.1.background.stops after.2 := by
  have nothing (world : World) : HearsOnly calls (calls world) before.1.background.stops world :=
    ⟨[], (List.append_nil _).symm, List.forall_mem_nil _⟩
  cases advance with
  | start controller world =>
      exact (notes.sustains.startUp (confined_stops (nothing world))).holds
  | tick controller world =>
      rcases notes.sustains.tick (confined_stops (nothing world)) with
        confined | ⟨reached, victim, confined, -⟩
      · exact confined.holds
      · exact confined.holds
  | @deliver controller event world later received =>
      have heard := (nothing world).of_eq (notes.receive world)
      rw [received] at heard
      exact (notes.sustains.handleEvent event (confined_stops heard)).holds
  | take ready world => exact nothing world
  | @progress controller earlier later job flying world =>
      have confined := confined_stops (nothing world)
      have others : ∀ other ∈ earlier ++ later, other ∈ controller.background.jobs := by
        intro other member
        rw [flying]
        exact ((List.sublist_cons_self job later).append_left earlier).subset member
      refine (Background.stepJob_confined notes.performs controller.settings
        (confined.jobs job (by simp [flying])) ?_).holds
      exact ⟨fun other member => confined.jobs other (others other member), confined.holds⟩

theorem Picks.running {controller : Controller} {replica : Replica}
    (picks : controller.Picks replica) : replica.id ∈ controller.running.map Replica.id := by
  rcases picks with ⟨oldest, probed, found, readied, rfl⟩
  rw [show ({ probed with phase := .stopping } : Replica).id = oldest.id from readied.id_eq]
  exact List.mem_map_of_mem (List.mem_of_find?_eq_some found)

/-- A replica is removed only when its completion is handled, and replicas are stopped in the order
of their age. In every run, each step leaves of the running set those whose end it does not report,
in their order, and puts those behind them who come to run. It asks no replica to stop, unless it is
a round; then it asks one at most, the first one that is not being stopped. So every stop that is
outstanding was asked for by an earlier round, and its replica has been running ever since, unless
its end was reported. The launcher is never asked to stop any other replica. -/
theorem removed_only_by_completion {labels : List Label} {label : Label}
    {before after : Controller} (run : Run surroundings labels before)
    (step : Step surroundings label before after) :
    after.running.map Replica.id =
        survivors (before.running.map Replica.id) label.completions ++ before.arrivals label ∧
      (∃ victim : Option Replica,
        (label.stopped?.toList : Multiset Replica) + after.background.stops =
            (victim.toList : Multiset Replica) + before.background.stops ∧
          ∀ replica ∈ victim, label = .tick ∧ before.Picks replica) ∧
      (∀ replica ∈ before.background.stops, ∃ earlier later chosen,
        labels = earlier ++ .tick :: later ∧ Run surroundings earlier chosen ∧
          chosen.Picks replica ∧
          (replica.id ∈ before.running.map Replica.id ∨ replica.id ∈ completions later)) ∧
      ∀ calls : World → List Replica, surroundings.Notes calls → ∀ label world state,
        Advance surroundings label (before, world) state →
          HearsOnly calls (calls world) before.background.stops state.2 := by
  refine ⟨step.running_eq run.identified, step.stops_eq, ?_, ?_⟩
  · intro replica outstanding
    rcases run.stop_picked outstanding with ⟨earlier, later, chosen, split, first, course, picks⟩
    exact ⟨earlier, later, chosen, split, first, picks,
      course.running_or_ended first picks.running⟩
  · intro calls notes label world state advance
    exact advance.hearsOnly notes

/-- The registration hands over two containers. The world notes which replicas are stopped. -/
def notedAdoption : Surroundings (List Replica) where
  clock _ := ⟨0⟩
  epoch _ := 0
  register stopped := (.ok ⟨[bareAllocation "first", bareAllocation "second"], {}⟩, stopped)
  unregister stopped := (.ok (), stopped)
  request _ stopped := (.ok (), stopped)
  release _ stopped := (.ok (), stopped)
  launch _ _ stopped := (.ok (), stopped)
  stop replica stopped := (.ok (), stopped ++ [replica])
  ready _ stopped := (some false, stopped)
  metrics _ stopped := (none, stopped)
  receive stopped := (none, stopped)
  isCancelled _ := false
  isEnding _ := false
  rest _ _ stopped := stopped
  await _ _ stopped := stopped

theorem notedAdoption_notes : notedAdoption.Notes fun stopped => stopped where
  stop _ _ := rfl
  register _ := rfl
  request _ _ := rfl
  release _ _ := rfl
  launch _ _ _ := rfl
  ready _ _ := rfl
  metrics _ _ := rfl
  receive _ := rfl
  rest _ _ _ := rfl

/-- The first of two replicas, being stopped. -/
def firstStopping : Replica := { (bareAllocation "first").toReplica with phase := .stopping }

/-- The controller after an idle round that asked the first of its two replicas to stop. -/
def afterIdleRound : Controller :=
  (((ofSettings plainSettings).startUp notedAdoption []).2.1.tick notedAdoption []).1

theorem run_afterIdleRound : ∃ labels, Run notedAdoption labels afterIdleRound :=
  ⟨_, ((@Run.initial _ notedAdoption plainSettings).step (.start [])).step (.tick [])⟩

/-- The first of two replicas is asked to stop, and stays until its completion. -/
theorem first_stopped_first :
    ∃ labels after state, Run notedAdoption labels afterIdleRound ∧
      afterIdleRound.running.map Replica.id = ["first", "second"] ∧
      Step notedAdoption completionComes afterIdleRound after ∧
      after.running.map Replica.id = ["second"] ∧
      (∃ earlier later chosen, labels = earlier ++ .tick :: later ∧
        Run notedAdoption earlier chosen ∧ chosen.Picks firstStopping) ∧
      Advance notedAdoption .progress (afterIdleRound, []) state ∧
      state.2 = [firstStopping] ∧
      HearsOnly (fun stopped => stopped) [] afterIdleRound.background.stops state.2 := by
  rcases run_afterIdleRound with ⟨labels, run⟩
  have step := @Step.event _ notedAdoption afterIdleRound
    (.completed [⟨"first", .failed, none, ""⟩]) []
  have flying : afterIdleRound.background.jobs =
      [] ++ ⟨.stop firstStopping, some 0, .unstarted⟩ :: [] := by decide +kernel
  obtain ⟨state, advance, heard⟩ : ∃ state,
      Advance notedAdoption .progress (afterIdleRound, []) state ∧ state.2 = [firstStopping] :=
    ⟨_, .progress flying [], by decide +kernel⟩
  rcases removed_only_by_completion run step with ⟨order, -, picked, calls⟩
  rcases picked firstStopping (by decide +kernel) with
    ⟨earlier, later, chosen, split, first, picks, -⟩
  refine ⟨labels, _, state, run, by decide +kernel, step, ?_,
    ⟨earlier, later, chosen, split, first, picks⟩, advance, heard,
    calls _ notedAdoption_notes _ _ _ advance⟩
  rw [order]
  decide +kernel

end Controller

end Calls

end Fleet
