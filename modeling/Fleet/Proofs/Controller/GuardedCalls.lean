import Fleet.Proofs.Controller.Requests
import Fleet.Proofs.Controller.Transition
import Fleet.Proofs.Retry.Outcomes

/-!
# Guarded calls

Requests, launches and stops pass a breaker and are retried. The attempts of one call are nothing to
the breaker: it is asked once, before the first attempt, and told once how the call ended. A refused
call makes no attempt.

There is one exception. A pause between two attempts is followed by the computation of the next
delay, and where that is no duration the call breaks off. A request then breaks the controller, and
a job is lost, without a report in either case.
-/

namespace Fleet

/-! ## What a breaker is told -/

/-- What a breaker is told of a call with the given results: one success, or one failure. -/
def IsTold {Value : Type} (policy : RetryPolicy) (outcomes : Nat → Except ClusterError Value)
    (asked : Breaker) (now : Instant) (after : Breaker) : Prop :=
  (policy.Succeeds ClusterError.isTransient outcomes → after = asked.onSuccess) ∧
    (¬policy.Succeeds ClusterError.isTransient outcomes → after = asked.onFailure now)

/-- A breaker that refuses a call stays as it is. -/
theorem Breaker.allow_of_refused {breaker : Breaker} {now : Instant}
    (refused : (breaker.allow now).1 = false) : (breaker.allow now).2 = breaker := by
  simp only [allow] at refused ⊢
  split
  · rfl
  · next state =>
      simp only [state] at refused
      split at refused
      · cases refused
      · next tired => rw [if_neg tired]
  · next state =>
      simp only [state] at refused
      split at refused
      · cases refused
      · next spent => rw [if_neg spent]

theorem isTold_report {Value : Type} {policy : RetryPolicy}
    {outcomes : Nat → Except ClusterError Value} {Failure : Type} {answer : Except Failure Value}
    (decided : policy.Succeeds ClusterError.isTransient outcomes ↔ answer.isOk = true)
    (asked : Breaker) (now : Instant) :
    IsTold policy outcomes asked now (asked.report now answer) := by
  cases answer with
  | ok value => exact ⟨fun _ => rfl, fun fails => absurd (decided.mpr rfl) fails⟩
  | error failure =>
      refine ⟨fun succeeds => ?_, fun _ => rfl⟩
      cases decided.mp succeeds

/-! ## Requests -/

namespace Background

variable {World : Type} {surroundings : Surroundings World}

/-- Neither the calls of the background nor the passing of time are among those counted. -/
structure Spares (surroundings : Surroundings World) (calls : World → Nat) : Prop where
  performs : ∀ plan (work : Work) world,
    calls (work.perform surroundings plan world).2 = calls world
  rests : ∀ handle limit world, calls (surroundings.rest handle limit world) = calls world

theorem Spares.pause {calls : World → Nat} (spares : Spares surroundings calls)
    (settings : ControllerSettings) (handle : Handle) (duration : Duration)
    (background : Background) (world : World) :
    calls (background.pause surroundings settings handle duration world).2.2 = calls world := by
  have begins : Confined (fun _ => True) (fun reached => calls reached = calls world) background
      world := ⟨fun _ _ => trivial, rfl⟩
  refine (pause_confined ?_ ?_ settings handle duration begins).holds
  · intro plan work reached _ same
    exact (spares.performs plan work reached).trans same
  · intro handle limit reached same
    exact (spares.rests handle limit reached).trans same

end Background

namespace Controller

variable {World : Type} {surroundings : Surroundings World}
  {outcomes : Nat → Except ClusterError Unit} {calls : World → Nat} {request : AllocationRequest}

end Controller

/-! ## Jobs -/

/-- A turn of a job, as its breaker shows it: before, once the turn has asked it, and after. -/
structure Turn where
  before : Breaker
  asked : Breaker
  after : Breaker

/-- The turn tells the breaker nothing. -/
def Turn.IsSilent (turn : Turn) : Prop := turn.after = turn.asked

theorem forall_isSilent_concat {turns : List Turn} (silent : ∀ turn ∈ turns, turn.IsSilent)
    (before asked : Breaker) :
    ∀ turn ∈ turns ++ [⟨before, asked, asked⟩], turn.IsSilent := by
  intro turn member
  rcases List.mem_append.mp member with earlier | new
  · exact silent turn earlier
  · rw [List.mem_singleton.mp new]
    rfl

namespace Background

variable {World : Type}

/-- The job that a turn leaves in flight, behind those that were in flight before. -/
def leftBy (before after : Background) : Option Job := after.jobs[before.jobs.length]?

/-- The life of a guarded job: whether it was admitted, its turns, the job as it is in flight, if it
still is, and the world. Between two turns anything may happen but the calls that are counted. -/
inductive JobLife (surroundings : Surroundings World) (settings : ControllerSettings)
    (calls : World → Nat) (work : Work) (number : Nat) :
    Bool → List Turn → Option Job → World → Prop where
  | begins (background : Background) (world : World) (unused : calls world = 0) :
      JobLife surroundings settings calls work number
        ((background.launcher number).allow (surroundings.clock world)).1
        [⟨background.launcher number,
          ((background.launcher number).allow (surroundings.clock world)).2,
          (stepJob surroundings settings (background, world)
            ⟨work, some number, .unstarted⟩).1.launcher number⟩]
        (background.leftBy (stepJob surroundings settings (background, world)
          ⟨work, some number, .unstarted⟩).1)
        (stepJob surroundings settings (background, world) ⟨work, some number, .unstarted⟩).2
  | goesOn {admitted : Bool} {turns : List Turn} {job : Job} {before : World}
      (life : JobLife surroundings settings calls work number admitted turns (some job) before)
      (background : Background) (world : World) (meanwhile : calls world = calls before) :
      JobLife surroundings settings calls work number admitted
        (turns ++ [⟨background.launcher number, background.launcher number,
          (stepJob surroundings settings (background, world) job).1.launcher number⟩])
        (background.leftBy (stepJob surroundings settings (background, world) job).1)
        (stepJob surroundings settings (background, world) job).2

theorem launcher_changeLauncher (background : Background) (number : Nat)
    (change : Breaker → Breaker) :
    (background.changeLauncher number change).launcher number =
      change (background.launcher number) := by
  simp only [changeLauncher, launcher]
  split
  · next retired => simp [List.getD, retired]
  · next present =>
      have absent : background.retired[number]? = none :=
        List.getElem?_eq_none (Nat.le_of_not_lt present)
      simp [List.getD, absent, BreakerRegistry.modify]

theorem changeLauncher_jobs (background : Background) (number : Nat)
    (change : Breaker → Breaker) :
    (background.changeLauncher number change).jobs = background.jobs := by
  rcases background.changeLauncher_frame number change with ⟨breakers, retired, changed⟩
  rw [changed]

theorem leftBy_of_jobs_eq {before after : Background} (same : after.jobs = before.jobs) :
    before.leftBy after = none := by
  rw [leftBy, same]
  exact List.getElem?_eq_none le_rfl

theorem leftBy_of_append {before after : Background} {job : Job}
    (added : after.jobs = before.jobs ++ [job]) : before.leftBy after = some job := by
  simp [leftBy, added]

/-! ### One attempt -/

section Attempt

variable {surroundings : Surroundings World} {settings : ControllerSettings} {work : Work}
  {number : Nat} {outcomes : Nat → Except ClusterError Unit} {calls : World → Nat}

/-- What follows from an attempt of a job: the job waits for another one, or ends with a result. -/
inductive Attempted (policy : RetryPolicy) (outcomes : Nat → Except ClusterError Unit)
    (attempt : Nat) : (left : Nat) → Duration → Progress → Prop where
  | waits {left : Nat} {delay : Duration} (wake : Instant)
      (judged : policy.judge ClusterError.isTransient (left + 1) (outcomes attempt) = .pause) :
      Attempted policy outcomes attempt (left + 1) delay (.waiting (.waiting left delay wake))
  | ends {left : Nat} {delay : Duration} {answer : Except (RetryError ClusterError) Unit}
      (judged : policy.judge ClusterError.isTransient left (outcomes attempt) = .conclude answer) :
      Attempted policy outcomes attempt left delay (.finished (answer.mapError .ofRetryError))

theorem attempt_attempted (uncancelled : ∀ world, surroundings.isCancelled world = false)
    (plays : Plays outcomes calls (work.perform surroundings settings.plan)) (left : Nat)
    (delay : Duration) (world : World) :
    Attempted settings.retry outcomes (calls world) left delay
        (work.attempt surroundings settings left delay world).1 ∧
      calls (work.attempt surroundings settings left delay world).2 = calls world + 1 := by
  have counted := plays.counted world
  have result := plays.result world
  simp only [Work.attempt]
  rw [result]
  cases judged : settings.retry.judge ClusterError.isTransient left (outcomes (calls world)) with
  | conclude answer => exact ⟨.ends judged, counted⟩
  | pause =>
      cases left with
      | zero => exact absurd judged RetryPolicy.judge_zero_ne_pause
      | succ left =>
          simp only [uncancelled, Bool.false_eq_true, if_false]
          exact ⟨.waits _ judged, counted⟩

end Attempt

/-! ### The life of a job -/

section Life

variable {surroundings : Surroundings World} {settings : ControllerSettings} {work : Work}
  {number : Nat} {outcomes : Nat → Except ClusterError Unit} {calls : World → Nat}
  {admitted : Bool} {turns : List Turn}

/-- A job between two attempts: it was admitted, has made some attempts, all of them worth another
one, and has told its breaker nothing. -/
structure IsWaiting (policy : RetryPolicy) (work : Work) (number : Nat)
    (outcomes : Nat → Except ClusterError Unit) (made : Nat) (admitted : Bool)
    (turns : List Turn) (job : Job) : Prop where
  admitted : admitted = true
  silent : ∀ turn ∈ turns, turn.IsSilent
  stage : ∃ attempt left delay wake, made = attempt + 1 ∧
    job = ⟨work, some number, .waiting left delay wake⟩ ∧
    policy.Reaches ClusterError.isTransient outcomes attempt (left + 1) delay ∧
    policy.judge ClusterError.isTransient (left + 1) (outcomes attempt) = .pause

/-- What a job has told its breaker when it is in flight no more. -/
structure IsOver (policy : RetryPolicy) (outcomes : Nat → Except ClusterError Unit) (made : Nat)
    (now : Instant) (admitted : Bool) (turns : List Turn) : Prop where
  refused : admitted = false → made = 0 ∧ ∃ breaker, turns = [⟨breaker, breaker, breaker⟩]
  told : admitted = true → 1 ≤ made ∧ made ≤ policy.maxRetries + 1 ∧
    ∃ quiet last, turns = quiet ++ [last] ∧ (∀ turn ∈ quiet, turn.IsSilent) ∧
      (policy.Endures ClusterError.isTransient outcomes →
        IsTold policy outcomes last.asked now last.after) ∧
      (¬policy.Endures ClusterError.isTransient outcomes → last.IsSilent)

/-- What a turn with an attempt makes of a job. -/
theorem keep_attempted {policy : RetryPolicy} {attempt left : Nat} {delay : Duration}
    {progress : Progress} (attempted : Attempted policy outcomes attempt left delay progress)
    (reaches : policy.Reaches ClusterError.isTransient outcomes attempt left delay)
    (before background : Background) (same : background.jobs = before.jobs) (stage : Stage)
    (now : Instant) {first : Breaker} {quiet : List Turn}
    (silent : ∀ turn ∈ quiet, turn.IsSilent) :
    let after := background.keep ⟨work, some number, stage⟩ now progress
    let turns := quiet ++ [⟨first, background.launcher number, after.launcher number⟩]
    (∃ job, before.leftBy after = some job ∧
      IsWaiting policy work number outcomes (attempt + 1) true turns job) ∨
    (before.leftBy after = none ∧ IsOver policy outcomes (attempt + 1) now true turns) := by
  intro after turns
  cases attempted with
  | @waits left delay wake judged =>
      exact Or.inl ⟨_, leftBy_of_append (congrArg (· ++ [_]) same), rfl,
        forall_isSilent_concat silent _ _, attempt, left, delay, wake, rfl, rfl, reaches, judged⟩
  | @ends left delay answer judged =>
      refine Or.inr ⟨leftBy_of_jobs_eq ?_, fun refused => (Bool.noConfusion refused), fun _ => ?_⟩
      · exact (changeLauncher_jobs ..).trans same
      · have budget := reaches.budget
        have limit := policy.attempts_le
        refine ⟨Nat.le_add_left .., by omega, quiet, _, rfl, silent, fun _ => ?_,
          fun lacks => absurd (reaches.endures judged) lacks⟩
        have told := launcher_changeLauncher
          { background with finished := background.finished ++
            [(work, answer.mapError ClusterError.ofRetryError)] }
          number (·.report now (answer.mapError ClusterError.ofRetryError))
        refine Eq.subst (motive := fun breaker =>
          IsTold policy outcomes (background.launcher number) now breaker) told.symm ?_
        apply isTold_report
        rw [reaches.succeeds_iff judged]
        cases answer <;> rfl

/-- How a job stands: it waits between two attempts, or it is over. -/
def Stands (policy : RetryPolicy) (work : Work) (number : Nat)
    (outcomes : Nat → Except ClusterError Unit) (made : Nat) (now : Instant) (admitted : Bool)
    (turns : List Turn) (flying : Option Job) : Prop :=
  (∃ job, flying = some job ∧ IsWaiting policy work number outcomes made admitted turns job) ∨
    (flying = none ∧ IsOver policy outcomes made now admitted turns)

/-- The background once a job has asked its breaker. -/
def asked (background : Background) (number : Nat) (now : Instant) : Background :=
  background.changeLauncher number fun breaker => (breaker.allow now).2

theorem launcher_asked (background : Background) (number : Nat) (now : Instant) :
    (background.asked number now).launcher number = ((background.launcher number).allow now).2 :=
  launcher_changeLauncher ..

theorem asked_jobs (background : Background) (number : Nat) (now : Instant) :
    (background.asked number now).jobs = background.jobs :=
  changeLauncher_jobs ..

theorem stepJob_of_refused (settings : ControllerSettings) (work : Work)
    {background : Background} {world : World}
    (refused : ((background.launcher number).allow (surroundings.clock world)).1 = false) :
    stepJob surroundings settings (background, world) ⟨work, some number, .unstarted⟩ =
      ({ background.asked number (surroundings.clock world) with
          finished := (background.asked number (surroundings.clock world)).finished ++
            [(work, .error (.circuitOpen launcherKey))] }, world) := by
  simp only [stepJob, Job.isReady, if_true, begin, refused, Bool.false_eq_true, if_false]
  rfl

theorem stepJob_of_admitted (settings : ControllerSettings) (work : Work)
    {background : Background} {world : World}
    (admitted : ((background.launcher number).allow (surroundings.clock world)).1 = true) :
    let attempted := work.attempt surroundings settings (settings.retry.attempts - 1)
      settings.retry.initialDelay world
    stepJob surroundings settings (background, world) ⟨work, some number, .unstarted⟩ =
      ((background.asked number (surroundings.clock world)).keep
        ⟨work, some number, .unstarted⟩ (surroundings.clock attempted.2) attempted.1,
      attempted.2) := by
  simp only [stepJob, Job.isReady, if_true, begin, admitted]
  rfl

/-- A job's first turn. -/
theorem begins_stands (uncancelled : ∀ world, surroundings.isCancelled world = false)
    (plays : Plays outcomes calls (work.perform surroundings settings.plan))
    (background : Background) {world : World} (unused : calls world = 0) :
    let asked := (background.launcher number).allow (surroundings.clock world)
    let run := stepJob surroundings settings (background, world) ⟨work, some number, .unstarted⟩
    Stands settings.retry work number outcomes (calls run.2) (surroundings.clock run.2) asked.1
      [⟨background.launcher number, asked.2, run.1.launcher number⟩]
      (background.leftBy run.1) := by
  intro asked run
  have jobs := background.asked_jobs number (surroundings.clock world)
  have told := background.launcher_asked number (surroundings.clock world)
  cases answer : asked.1 with
  | false =>
      have same : asked.2 = background.launcher number := Breaker.allow_of_refused answer
      have turn := stepJob_of_refused settings work answer
      simp only [run, turn]
      refine Or.inr ⟨leftBy_of_jobs_eq jobs, fun _ => ⟨unused, background.launcher number, ?_⟩,
        Bool.noConfusion⟩
      have kept := told.trans same
      rw [same]
      exact congrArg (fun after => [Turn.mk _ _ after]) kept
  | true =>
      have turn := stepJob_of_admitted settings work answer
      have attempted := attempt_attempted uncancelled plays (settings.retry.attempts - 1)
        settings.retry.initialDelay world
      simp only [run, turn]
      rw [attempted.2, ← told]
      apply keep_attempted attempted.1 ?_ background _ jobs _ _ (List.forall_mem_nil _)
      rw [unused]
      exact settings.retry.reaches_first ClusterError.isTransient outcomes

section Later

variable {left : Nat} {delay : Duration} {wake : Instant} {background : Background} {world : World}

theorem stepJob_of_unready
    (unready : ¬Job.isReady ⟨work, some number, .waiting left delay wake⟩
      (surroundings.clock world) (surroundings.isCancelled world) = true) :
    stepJob surroundings settings (background, world)
        ⟨work, some number, .waiting left delay wake⟩ =
      ({ background with
          jobs := background.jobs ++ [⟨work, some number, .waiting left delay wake⟩] }, world) :=
  if_neg unready

variable (uncancelled : ∀ world, surroundings.isCancelled world = false)
  (ready : Job.isReady ⟨work, some number, .waiting left delay wake⟩
    (surroundings.clock world) (surroundings.isCancelled world) = true)
include uncancelled ready

theorem stepJob_of_outOfRange (grows : settings.retry.nextDelay? delay = none) :
    stepJob surroundings settings (background, world)
        ⟨work, some number, .waiting left delay wake⟩ =
      ({ background with lost := background.lost ++ [work] }, world) := by
  refine (if_pos ready).trans ?_
  simp only [resume, uncancelled, Bool.false_eq_true, if_false, grows, keep]

theorem stepJob_of_resumed {next : Duration}
    (grows : settings.retry.nextDelay? delay = some next) :
    let attempted := work.attempt surroundings settings left next world
    stepJob surroundings settings (background, world)
        ⟨work, some number, .waiting left delay wake⟩ =
      (background.keep ⟨work, some number, .waiting left delay wake⟩
        (surroundings.clock attempted.2) attempted.1, attempted.2) := by
  refine (if_pos ready).trans ?_
  simp only [resume, uncancelled, Bool.false_eq_true, if_false, grows]

end Later

/-- A later turn of a job. -/
theorem IsWaiting.goesOn (uncancelled : ∀ world, surroundings.isCancelled world = false)
    (plays : Plays outcomes calls (work.perform surroundings settings.plan))
    {job : Job} {world : World} (waiting : IsWaiting settings.retry work number outcomes
      (calls world) admitted turns job) (background : Background) :
    let run := stepJob surroundings settings (background, world) job
    Stands settings.retry work number outcomes (calls run.2) (surroundings.clock run.2) admitted
      (turns ++ [⟨background.launcher number, background.launcher number,
        run.1.launcher number⟩])
      (background.leftBy run.1) := by
  rcases waiting with ⟨rfl, silent, attempt, left, delay, wake, made, rfl, reaches, judged⟩
  intro run
  by_cases ready : Job.isReady ⟨work, some number, .waiting left delay wake⟩
      (surroundings.clock world) (surroundings.isCancelled world) = true
  · cases grows : settings.retry.nextDelay? delay with
    | none =>
        simp only [run, stepJob_of_outOfRange uncancelled ready grows]
        have limit := settings.retry.attempts_le
        have budget := reaches.budget
        refine Or.inr ⟨leftBy_of_jobs_eq rfl, Bool.noConfusion, fun _ => ⟨by omega, by omega,
          turns, _, rfl, silent, fun endures => ?_, fun _ => rfl⟩⟩
        exact absurd endures (reaches.not_endures judged grows)
    | some next =>
        have attempted := attempt_attempted uncancelled plays left next world
        simp only [run, stepJob_of_resumed uncancelled ready grows]
        rw [attempted.2]
        apply keep_attempted attempted.1 ?_ background background rfl _ _ silent
        rw [made]
        exact reaches.next judged grows
  · simp only [run, stepJob_of_unready ready]
    exact Or.inl ⟨_, leftBy_of_append rfl, rfl, forall_isSilent_concat silent _ _, attempt, left,
      delay, wake, made, rfl, reaches, judged⟩

theorem JobLife.stands (uncancelled : ∀ world, surroundings.isCancelled world = false)
    (plays : Plays outcomes calls (work.perform surroundings settings.plan))
    {flying : Option Job} {world : World}
    (life : JobLife surroundings settings calls work number admitted turns flying world) :
    Stands settings.retry work number outcomes (calls world) (surroundings.clock world) admitted
      turns flying := by
  have waits {admitted : Bool} {turns : List Turn} {job : Job} {made : Nat} {now : Instant}
      (stands : Stands settings.retry work number outcomes made now admitted turns (some job)) :
      IsWaiting settings.retry work number outcomes made admitted turns job := by
    rcases stands with ⟨_, same, waiting⟩ | ⟨ended, -⟩
    · cases same
      exact waiting
    · cases ended
  induction life with
  | begins background world unused => exact begins_stands uncancelled plays background unused
  | goesOn life background world meanwhile ih =>
      apply IsWaiting.goesOn uncancelled plays _ background
      rw [meanwhile]
      exact waits ih

end Life

/-- Up to four attempts, the first two of them a second apart. -/
def trialPolicy (maxDelay : Duration) (multiplier : Binary64) : RetryPolicy :=
  ⟨3, .ofSeconds 1, maxDelay, multiplier⟩

/-- A ceiling that the delay reaches. -/
def bounded : RetryPolicy := trialPolicy (.ofSeconds 5) 2

end Background

end Fleet
