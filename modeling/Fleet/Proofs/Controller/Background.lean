import Fleet.Controller.Work
import Fleet.Proofs.Breaker
import Fleet.Proofs.Retry
import Mathlib.Algebra.Order.Group.Multiset
import Mathlib.Data.Multiset.Filter
import Mathlib.Tactic.Abel

/-!
# Conservation of background work

A call that was started is in flight until its result is taken, or it is lost. The jobs go on in
every step of the controller that waits, so the calls are counted without their order: no step of
a job makes a call appear or disappear, and none touches a breaker other than the launcher's.
-/

namespace Fleet

namespace Background

variable {World : Type}

/-- The calls in flight: they were started, and their results were not taken yet. -/
def tasks (background : Background) : Multiset Work :=
  (background.jobs.map Job.work : Multiset Work) + (background.finished.map Prod.fst : List Work)

/-- The calls that were started and whose results were not taken, those that were lost included. -/
def outstanding (background : Background) : Multiset Work :=
  background.tasks + (background.lost : Multiset Work)

theorem outstanding_eq_tasks {background : Background} (intact : background.lost = []) :
    background.outstanding = background.tasks := by
  simp [outstanding, intact]

theorem outstanding_of_flying {background : Background} {job : Job}
    (flying : job ∈ background.jobs) : job.work ∈ background.outstanding := by
  simp only [outstanding, tasks, Multiset.mem_add, Multiset.mem_coe]
  exact Or.inl (Or.inl (List.mem_map_of_mem flying))

theorem outstanding_of_ready {background : Background} {work : Work}
    {result : Except ClusterError Unit} (ready : (work, result) ∈ background.finished) :
    work ∈ background.outstanding := by
  simp only [outstanding, tasks, Multiset.mem_add, Multiset.mem_coe]
  exact Or.inl (Or.inr (List.mem_map_of_mem ready))

/-- How the background may change while the controller does not look: some calls are added to the
outstanding ones, and of the breakers of the registry only the launcher's changes. -/
structure Evolves (added : Multiset Work) (before after : Background) : Prop where
  outstanding : after.outstanding = added + before.outstanding
  breaker : ∀ key, key ≠ launcherKey → after.breakers.breaker key = before.breakers.breaker key

namespace Evolves

variable {added later : Multiset Work} {before middle after : Background}

protected theorem refl (background : Background) : Evolves 0 background background :=
  ⟨(zero_add _).symm, fun _ _ => rfl⟩

protected theorem trans (first : Evolves added before middle)
    (second : Evolves later middle after) : Evolves (later + added) before after := by
  constructor
  · rw [second.outstanding, first.outstanding, add_assoc]
  · intro key different
    rw [second.breaker key different, first.breaker key different]

/-- The calls of a kind are outstanding as before, and with them those of the added ones. -/
theorem filterMap_eq {Value : Type} (evolved : Evolves added before after)
    (pick : Work → Option Value) :
    after.outstanding.filterMap pick =
      added.filterMap pick + before.outstanding.filterMap pick := by
  rw [evolved.outstanding, Multiset.filterMap_add]

/-- Two spans in which no call was added make one. -/
theorem trans_zero (first : Evolves 0 before middle) (second : Evolves 0 middle after) :
    Evolves 0 before after := by
  simpa using first.trans second

end Evolves

theorem addJob_evolves (background : Background) (job : Job) :
    Evolves {job.work} background { background with jobs := background.jobs ++ [job] } := by
  refine ⟨?_, fun _ _ => rfl⟩
  simp only [outstanding, tasks, List.map_append, ← Multiset.coe_add, List.map_cons,
    List.map_nil, Multiset.coe_singleton]
  abel

theorem addFinished_evolves (background : Background) (work : Work)
    (result : Except ClusterError Unit) :
    Evolves {work} background
      { background with finished := background.finished ++ [(work, result)] } := by
  refine ⟨?_, fun _ _ => rfl⟩
  simp only [outstanding, tasks, List.map_append, ← Multiset.coe_add, List.map_cons,
    List.map_nil, Multiset.coe_singleton]
  abel

theorem addLost_evolves (background : Background) (work : Work) :
    Evolves {work} background { background with lost := background.lost ++ [work] } := by
  refine ⟨?_, fun _ _ => rfl⟩
  simp only [outstanding, tasks, ← Multiset.coe_add, Multiset.coe_singleton]
  abel

theorem ensureLauncher_evolves (background : Background) :
    Evolves 0 background
      { background with breakers := background.breakers.ensure launcherKey } :=
  ⟨(zero_add _).symm, fun key _ => background.breakers.breaker_ensure launcherKey key⟩

theorem changeLauncher_evolves (background : Background) (number : Nat)
    (change : Breaker → Breaker) :
    Evolves 0 background (background.changeLauncher number change) := by
  simp only [changeLauncher]
  split
  · exact ⟨(zero_add _).symm, fun _ _ => rfl⟩
  · exact ⟨(zero_add _).symm, fun _ different =>
      background.breakers.breaker_modify_of_ne change different⟩

theorem start_evolves (background : Background) (work : Work) :
    Evolves {work} background (background.start work) := by
  simp only [start]
  split
  · exact (background.addJob_evolves ⟨work, some background.retired.length, .unstarted⟩).trans
      (ensureLauncher_evolves _)
  · exact background.addJob_evolves ⟨work, none, .unstarted⟩

theorem keep_evolves (background : Background) (job : Job) (now : Instant)
    (progress : Progress) :
    Evolves {job.work} background (background.keep job now progress) := by
  cases progress with
  | waiting stage => exact background.addJob_evolves { job with stage := stage }
  | lost => exact background.addLost_evolves job.work
  | finished result =>
      have kept := background.addFinished_evolves job.work result
      cases guarding : job.guarding with
      | none => simpa only [keep, guarding] using kept
      | some number =>
          simpa only [keep, guarding, zero_add] using
            kept.trans (changeLauncher_evolves _ number (·.report now result))

theorem begin_evolves (surroundings : Surroundings World) (settings : ControllerSettings)
    (job : Job) (background : Background) (world : World) :
    Evolves {job.work} background (begin surroundings settings job background world).1 := by
  simp only [begin]
  cases guarding : job.guarding with
  | none => exact background.keep_evolves job _ _
  | some number =>
      have asked := background.changeLauncher_evolves number
        fun breaker => (breaker.allow (surroundings.clock world)).2
      simp only
      split
      · simpa only [add_zero] using asked.trans (keep_evolves _ job _ _)
      · simpa only [add_zero] using asked.trans (addFinished_evolves _ job.work _)

theorem resume_evolves (surroundings : Surroundings World) (settings : ControllerSettings)
    (job : Job) (left : Nat) (delay : Duration) (background : Background) (world : World) :
    Evolves {job.work} background
      (resume surroundings settings job left delay background world).1 :=
  background.keep_evolves job _ _

/-- A job that goes on, and one that does not, stay outstanding. -/
theorem stepJob_evolves (surroundings : Surroundings World) (settings : ControllerSettings)
    (state : Background × World) (job : Job) :
    Evolves {job.work} state.1 (stepJob surroundings settings state job).1 := by
  rcases state with ⟨background, world⟩
  simp only [stepJob]
  split
  · cases job.stage with
    | unstarted => exact begin_evolves surroundings settings job background world
    | waiting left delay wake =>
        exact resume_evolves surroundings settings job left delay background world
  · exact background.addJob_evolves job

theorem foldl_stepJob_evolves (surroundings : Surroundings World)
    (settings : ControllerSettings) (jobs : List Job) (state : Background × World) :
    Evolves (jobs.map Job.work : List Work) state.1
      (jobs.foldl (stepJob surroundings settings) state).1 := by
  induction jobs generalizing state with
  | nil => exact .refl state.1
  | cons job rest ih =>
      have first := stepJob_evolves surroundings settings state job
      have others := ih (stepJob surroundings settings state job)
      simpa only [List.foldl_cons, List.map_cons, ← Multiset.cons_coe, ← Multiset.singleton_add,
        add_comm {job.work}] using first.trans others

theorem runReady_evolves (surroundings : Surroundings World) (settings : ControllerSettings)
    (background : Background) (world : World) :
    Evolves 0 background (background.runReady surroundings settings world).1 := by
  -- The fold starts without jobs and puts one back for each that it takes.
  have folded := foldl_stepJob_evolves surroundings settings background.jobs
    ({ background with jobs := [] }, world)
  refine ⟨?_, folded.breaker⟩
  calc
    (background.runReady surroundings settings world).1.outstanding
      = (background.jobs.map Job.work : List Work) +
          ({ background with jobs := [] } : Background).outstanding := folded.outstanding
    _ = 0 + background.outstanding := by
      simp only [outstanding, tasks, List.map_nil, Multiset.coe_nil, zero_add, add_assoc]

theorem waitRounds_evolves (surroundings : Surroundings World) (settings : ControllerSettings)
    (handle : Handle) (wake : Instant) (rounds : Nat) (background : Background) (world : World) :
    Evolves 0 background
      (background.waitRounds surroundings settings handle wake rounds world).2.1 := by
  induction rounds generalizing background world with
  | zero => exact .refl background
  | succ rounds ih =>
      simp only [waitRounds]
      split
      · exact .refl background
      · split
        · exact .refl background
        · exact (runReady_evolves surroundings settings background world).trans_zero (ih _ _)

/-- While the controller waits, no call appears or disappears. -/
theorem pause_evolves (surroundings : Surroundings World) (settings : ControllerSettings)
    (handle : Handle) (duration : Duration) (background : Background) (world : World) :
    Evolves 0 background
      (background.pause surroundings settings handle duration world).2.1 :=
  waitRounds_evolves ..

/-! ## The world meanwhile -/

theorem changeLauncher_frame (background : Background) (number : Nat)
    (change : Breaker → Breaker) :
    ∃ breakers retired, background.changeLauncher number change =
      { background with breakers := breakers, retired := retired } := by
  simp only [changeLauncher]
  split
  · exact ⟨_, _, rfl⟩
  · exact ⟨_, _, rfl⟩

/-- The jobs in flight do works of a certain kind only, and a property of the world holds. -/
structure Confined (Allowed : Work → Prop) (Holds : World → Prop) (background : Background)
    (world : World) : Prop where
  jobs : ∀ job ∈ background.jobs, Allowed job.work
  holds : Holds world

namespace Confined

variable {Allowed : Work → Prop} {Holds : World → Prop} {background : Background} {world : World}

theorem withGuards (confined : Confined Allowed Holds background world)
    (breakers : BreakerRegistry) (retired : List Breaker) :
    Confined Allowed Holds { background with breakers := breakers, retired := retired } world :=
  ⟨confined.jobs, confined.holds⟩

theorem changeLauncher (confined : Confined Allowed Holds background world) (number : Nat)
    (change : Breaker → Breaker) :
    Confined Allowed Holds (background.changeLauncher number change) world := by
  rcases background.changeLauncher_frame number change with ⟨breakers, retired, changed⟩
  rw [changed]
  exact confined.withGuards breakers retired

theorem inWorld (confined : Confined Allowed Holds background world) {later : World}
    (holds : Holds later) : Confined Allowed Holds background later :=
  ⟨confined.jobs, holds⟩

theorem addJob (confined : Confined Allowed Holds background world) {job : Job}
    (allowed : Allowed job.work) :
    Confined Allowed Holds { background with jobs := background.jobs ++ [job] } world := by
  refine ⟨?_, confined.holds⟩
  intro other member
  rcases List.mem_append.mp member with old | new
  · exact confined.jobs other old
  · obtain rfl := List.mem_singleton.mp new
    exact allowed

theorem start (confined : Confined Allowed Holds background world) {work : Work}
    (allowed : Allowed work) : Confined Allowed Holds (background.start work) world := by
  have added (guarding : Option Nat) :=
    confined.addJob (show Allowed (Job.mk work guarding .unstarted).work from allowed)
  simp only [Background.start]
  split
  · exact (added _).withGuards _ _
  · exact added none

/-- The jobs are those that there were, and at most the one that went on. -/
theorem keep (confined : Confined Allowed Holds background world) {job : Job}
    (allowed : Allowed job.work) (now : Instant) (progress : Progress) :
    Confined Allowed Holds (background.keep job now progress) world := by
  cases progress with
  | waiting stage => exact confined.addJob allowed
  | lost => exact ⟨confined.jobs, confined.holds⟩
  | finished result =>
      have kept : Confined Allowed Holds
          { background with finished := background.finished ++ [(job.work, result)] } world :=
        ⟨confined.jobs, confined.holds⟩
      simp only [Background.keep]
      cases job.guarding with
      | none => exact kept
      | some number => exact kept.changeLauncher number _

end Confined

section Confined

variable {surroundings : Surroundings World} {Allowed : Work → Prop} {Holds : World → Prop}
  (performs : ∀ plan (work : Work) world, Allowed work → Holds world →
    Holds (work.perform surroundings plan world).2)
include performs

theorem attempt_keeps (settings : ControllerSettings) {work : Work} (allowed : Allowed work)
    (left : Nat) (delay : Duration) {world : World} (holds : Holds world) :
    Holds (work.attempt surroundings settings left delay world).2 := by
  have performed := performs settings.plan work world allowed holds
  simp only [Work.attempt]
  split
  · exact performed
  · exact performed
  · split <;> exact performed

/-- What every attempt of a call of the kind keeps, a step of such a job keeps. -/
theorem stepJob_confined (settings : ControllerSettings) {background : Background} {world : World}
    {job : Job} (allowed : Allowed job.work) (confined : Confined Allowed Holds background world) :
    Confined Allowed Holds (stepJob surroundings settings (background, world) job).1
      (stepJob surroundings settings (background, world) job).2 := by
  have attempted (left : Nat) (delay : Duration) :=
    attempt_keeps performs settings allowed left delay confined.holds
  simp only [stepJob]
  split
  · cases job.stage with
    | unstarted =>
        simp only [begin]
        cases job.guarding with
        | none => exact (confined.inWorld (attempted _ _)).keep allowed _ _
        | some number =>
            have asked := confined.changeLauncher number
              fun breaker => (breaker.allow (surroundings.clock world)).2
            dsimp only
            split
            · exact (asked.inWorld (attempted _ _)).keep allowed _ _
            · exact ⟨asked.jobs, asked.holds⟩
    | waiting left delay wake =>
        simp only [resume]
        refine Confined.keep (confined.inWorld ?_) allowed _ _
        split
        · exact confined.holds
        · cases settings.retry.nextDelay? delay with
          | none => exact confined.holds
          | some next => exact attempted _ _
  · exact confined.addJob allowed

theorem runReady_confined (settings : ControllerSettings) {background : Background} {world : World}
    (confined : Confined Allowed Holds background world) :
    Confined Allowed Holds (background.runReady surroundings settings world).1
      (background.runReady surroundings settings world).2 := by
  apply List.foldlRecOn background.jobs (stepJob surroundings settings)
    (motive := fun state => Confined Allowed Holds state.1 state.2)
  · exact ⟨List.forall_mem_nil _, confined.holds⟩
  · intro state held job member
    exact stepJob_confined performs settings (confined.jobs job member) held

variable (rests : ∀ handle limit world, Holds world →
  Holds (surroundings.rest handle limit world))
include rests

theorem waitRounds_confined (settings : ControllerSettings) (handle : Handle) (wake : Instant)
    (rounds : Nat) {background : Background} {world : World}
    (confined : Confined Allowed Holds background world) :
    Confined Allowed Holds
      (background.waitRounds surroundings settings handle wake rounds world).2.1
      (background.waitRounds surroundings settings handle wake rounds world).2.2 := by
  induction rounds generalizing background world with
  | zero => exact confined
  | succ rounds ih =>
      have ran := runReady_confined performs settings confined
      simp only [waitRounds]
      split
      · exact confined
      · split
        · exact confined
        · exact ih (ran.inWorld (rests _ _ _ ran.holds))

/-- What every attempt of a call and every passing of time keeps, a pause keeps. -/
theorem pause_confined (settings : ControllerSettings) (handle : Handle) (duration : Duration)
    {background : Background} {world : World}
    (confined : Confined Allowed Holds background world) :
    Confined Allowed Holds (background.pause surroundings settings handle duration world).2.1
      (background.pause surroundings settings handle duration world).2.2 :=
  waitRounds_confined performs rests settings handle _ _ confined

end Confined

end Background

end Fleet
