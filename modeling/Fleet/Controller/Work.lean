import Fleet.Controller.Settings
import Fleet.Controller.Surroundings

/-!
# Work in the background

Launches, stops and releases run beside the controller. Each is a call with retries, and launches
and stops also pass the launcher's breaker. A job goes on whenever the controller waits, and its
result lies ready until the controller takes it. The launcher's breaker may be dropped from the
registry like any other; the jobs that started with it keep it.
-/

namespace Fleet

/-- The key of the breaker for calls to the allocator. -/
def allocatorKey : String := "allocator"

/-- The key of the breaker for calls to the launcher. -/
def launcherKey : String := "launcher"

/-- A call that runs in the background. -/
inductive Work where
  | launch (replica : Replica)
  | stop (replica : Replica)
  | release (replica : String)
  deriving DecidableEq

namespace Work

/-- Whether the call passes the launcher's breaker. A release does not, so that no breaker can keep
a granted container from being given back. -/
def isGuarded : Work → Bool
  | launch _ | stop _ => true
  | release _ => false

/-- One attempt of the call. -/
def perform {World : Type} (surroundings : Surroundings World) (plan : LaunchPlan) :
    Work → World → Except ClusterError Unit × World
  | launch replica => surroundings.launch replica (plan.contextFor replica.id)
  | stop replica => surroundings.stop replica
  | release replica => surroundings.release replica

end Work

/-- How far a job has come. -/
inductive Stage where
  | unstarted
  /-- An attempt failed, and `left` more attempts follow the next one, which is made after the
  delay, at `wake`. -/
  | waiting (left : Nat) (delay : Duration) (wake : Instant)
  deriving DecidableEq

/-- Work in flight. -/
structure Job where
  work : Work
  /-- The number of the launcher's breaker that the call passes, if it passes one. -/
  guarding : Option Nat
  stage : Stage
  deriving DecidableEq

namespace Job

/-- Whether the job can go on: it has not started, its delay has passed, or it is cancelled. -/
def isReady (job : Job) (now : Instant) (cancelled : Bool) : Bool :=
  match job.stage with
  | .unstarted => true
  | .waiting _ _ wake => cancelled || wake ≤ now

/-- When a waiting job goes on. -/
def wake? (job : Job) : Option Instant :=
  match job.stage with
  | .unstarted => none
  | .waiting _ _ wake => some wake

/-- The number of attempts that the job may still make. -/
def attemptsLeft (policy : RetryPolicy) (job : Job) : Nat :=
  match job.stage with
  | .unstarted => policy.attempts
  | .waiting left _ _ => left + 1

end Job

/-- What a job comes to when it goes on. -/
inductive Progress where
  | waiting (stage : Stage)
  | finished (result : Except ClusterError Unit)
  /-- No delay could follow; the job ends without a result. -/
  | lost

/-- What an attempt of a job comes to. -/
def Work.attempt {World : Type} (surroundings : Surroundings World) (settings : ControllerSettings)
    (work : Work) (left : Nat) (delay : Duration) (world : World) : Progress × World :=
  let (result, world) := work.perform surroundings settings.plan world
  match settings.retry.judge ClusterError.isTransient left result, left with
  | .conclude result, _ => (.finished (result.mapError .ofRetryError), world)
  | .pause, 0 => (.finished (.error .cancelled), world)
  | .pause, left + 1 =>
      if surroundings.isCancelled world then (.finished (.error .cancelled), world)
      else (.waiting (.waiting left delay ((surroundings.clock world).after delay)), world)

/-- The breakers, the jobs in flight in the order of their start, and the results that were not
taken yet, oldest first. -/
structure Background where
  breakers : BreakerRegistry
  /-- The launcher's breakers that were dropped from the registry, in their order. -/
  retired : List Breaker := []
  jobs : List Job := []
  finished : List (Work × Except ClusterError Unit) := []
  /-- The calls that broke off without a result. Nobody hears of them. -/
  lost : List Work := []

namespace Background

variable {World : Type}

/-- The launcher's breaker with a number: a retired one, or the one of the registry. -/
def launcher (background : Background) (number : Nat) : Breaker :=
  background.retired.getD number (background.breakers.breaker launcherKey)

/-- The background with the launcher's breaker of a number changed. -/
def changeLauncher (background : Background) (number : Nat) (change : Breaker → Breaker) :
    Background :=
  if number < background.retired.length then
    { background with retired := background.retired.modify number change }
  else
    { background with breakers := background.breakers.modify launcherKey change }

/-- The background without the breaker of a dependency. That of the launcher retires, since jobs in
flight may hold it. -/
def dropBreaker (background : Background) (key : String) : Background :=
  { background with
    breakers := background.breakers.remove key
    retired :=
      if key = launcherKey then
        background.retired ++ [background.breakers.breaker launcherKey]
      else background.retired }

/-- The background with a job more. A guarded call holds the launcher's breaker from here on. -/
def start (background : Background) (work : Work) : Background :=
  if work.isGuarded then
    { background with
      jobs := background.jobs ++ [⟨work, some background.retired.length, .unstarted⟩]
      breakers := background.breakers.ensure launcherKey }
  else { background with jobs := background.jobs ++ [⟨work, none, .unstarted⟩] }

/-- The background after a job went on: it waits again, or it is lost, or its result is kept and,
where the call is guarded, reported to the breaker. -/
def keep (background : Background) (job : Job) (now : Instant) : Progress → Background
  | .waiting stage =>
      { background with jobs := background.jobs ++ [{ job with stage := stage }] }
  | .lost => { background with lost := background.lost ++ [job.work] }
  | .finished result =>
      let kept := { background with finished := background.finished ++ [(job.work, result)] }
      match job.guarding with
      | some number => kept.changeLauncher number (·.report now result)
      | none => kept

/-- A job's first step. A guarded call asks the breaker before its first attempt. -/
def begin (surroundings : Surroundings World) (settings : ControllerSettings) (job : Job)
    (background : Background) (world : World) : Background × World :=
  let attempt (background : Background) : Background × World :=
    let (progress, world) := job.work.attempt surroundings settings (settings.retry.attempts - 1)
      settings.retry.initialDelay world
    (background.keep job (surroundings.clock world) progress, world)
  match job.guarding with
  | none => attempt background
  | some number =>
      let now := surroundings.clock world
      let asked := background.changeLauncher number fun breaker => (breaker.allow now).2
      if ((background.launcher number).allow now).1 then attempt asked
      else
        ({ asked with
            finished := asked.finished ++ [(job.work, .error (.circuitOpen launcherKey))] }, world)

/-- A job's step after a delay. -/
def resume (surroundings : Surroundings World) (settings : ControllerSettings) (job : Job)
    (left : Nat) (delay : Duration) (background : Background) (world : World) :
    Background × World :=
  let (progress, world) : Progress × World :=
    if surroundings.isCancelled world then (.finished (.error .cancelled), world)
    else
      match settings.retry.nextDelay? delay with
      | none => (.lost, world)
      | some next => job.work.attempt surroundings settings left next world
  (background.keep job (surroundings.clock world) progress, world)

/-- A job goes on if it is ready, and stays in flight otherwise. -/
def stepJob (surroundings : Surroundings World) (settings : ControllerSettings)
    (state : Background × World) (job : Job) : Background × World :=
  let (background, world) := state
  if job.isReady (surroundings.clock world) (surroundings.isCancelled world) then
    match job.stage with
    | .unstarted => begin surroundings settings job background world
    | .waiting left delay _ => resume surroundings settings job left delay background world
  else ({ background with jobs := background.jobs ++ [job] }, world)

/-- All ready jobs go on, in the order of their start. -/
def runReady (surroundings : Surroundings World) (settings : ControllerSettings)
    (background : Background) (world : World) : Background × World :=
  background.jobs.foldl (stepJob surroundings settings) ({ background with jobs := [] }, world)

/-- Whether some job can go on. -/
def hasReady (surroundings : Surroundings World) (background : Background) (world : World) : Bool :=
  background.jobs.any
    (·.isReady (surroundings.clock world) (surroundings.isCancelled world))

/-- The earliest of an instant and those at which waiting jobs go on. -/
def earliestWake (background : Background) (limit : Instant) : Instant :=
  (background.jobs.filterMap Job.wake?).foldl Instant.earlier limit

/-- The earliest instant at which a waiting job goes on. -/
def nextWake? (background : Background) : Option Instant :=
  (background.jobs.findSome? Job.wake?).map background.earliestWake

/-- The attempts that all jobs may still make. -/
def attemptsLeft (settings : ControllerSettings) (background : Background) : Nat :=
  (background.jobs.map (·.attemptsLeft settings.retry)).foldl (· + ·) 0

/-- The jobs go on while the controller waits for an instant. Each of at most `rounds` rounds ends
at the next instant at which something happens. The answer tells whether the shutdown signal ended
the wait. -/
def waitRounds (surroundings : Surroundings World) (settings : ControllerSettings)
    (handle : Handle) (wake : Instant) :
    (rounds : Nat) → Background → World → Bool × Background × World
  | 0, background, world => (false, background, world)
  | rounds + 1, background, world =>
      if surroundings.isCancelled world then (true, background, world)
      else if wake ≤ surroundings.clock world then (false, background, world)
      else
        let (background, world) := background.runReady surroundings settings world
        let world := surroundings.rest handle (background.earliestWake wake) world
        waitRounds surroundings settings handle wake rounds background world

/-- The controller waits for a duration while the jobs go on. Every round but the last ends with an
attempt of a job, so that the attempts left bound the rounds. -/
def pause (surroundings : Surroundings World) (settings : ControllerSettings) (handle : Handle)
    (duration : Duration) (background : Background) (world : World) :
    Bool × Background × World :=
  background.waitRounds surroundings settings handle
    ((surroundings.clock world).after duration) (background.attemptsLeft settings + 3) world

end Background

end Fleet
