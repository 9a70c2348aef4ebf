import Fleet.Proofs.Cancellation
import Fleet.Proofs.Retry
import Fleet.Rehearsal.Attempts
import Mathlib.Order.Bounds.Basic

/-!
# How a call with retries ends

With an operation that takes no time, the policy alone says when each attempt starts. A call makes
the attempts up to the first one that ends it: that succeeds, fails for good, is the last one, or is
followed by a pause in which the call is cancelled. Attempts count from zero here.
-/

namespace Fleet

namespace RetryPolicy

variable {Failure Value : Type}

/-- The delay after an attempt, unless one of the delays up to it is no duration. -/
def delay? (policy : RetryPolicy) : (attempt : Nat) → Option Duration
  | 0 => some policy.initialDelay
  | attempt + 1 => (policy.delay? attempt).bind policy.nextDelay?

/-- When an attempt starts, in a call that is not over by then. -/
def start? (policy : RetryPolicy) : (attempt : Nat) → Option Instant
  | 0 => some ⟨0⟩
  | attempt + 1 =>
      (policy.start? attempt).bind fun start => (policy.delay? attempt).map start.after

/-- Attempts start one after the other. -/
theorem start?_le {policy : RetryPolicy} {first second : Nat} (order : first ≤ second)
    {before after : Instant} (firstStart : policy.start? first = some before)
    (secondStart : policy.start? second = some after) : before ≤ after := by
  induction order generalizing after with
  | refl =>
    rw [firstStart, Option.some.injEq] at secondStart
    rw [secondStart, Instant.le_iff]
  | step order ih =>
    simp only [start?, Option.bind_eq_some_iff, Option.map_eq_some_iff] at secondStart
    obtain ⟨start, started, delay, -, rfl⟩ := secondStart
    have earlier := ih started
    simp only [Instant.le_iff, Instant.after] at earlier ⊢
    omega

/-- Why a call ends with an attempt, given when its cancel signal rises. -/
inductive Ends (policy : RetryPolicy) (retryable : Failure → Bool)
    (outcomes : Nat → Except Failure Value) (rise : Option Instant) (attempt : Nat) : Prop where
  | succeeds {value : Value} (outcome : outcomes attempt = .ok value)
  | failsForGood {failure : Failure} (outcome : outcomes attempt = .error failure)
      (final : retryable failure = false)
  | isLast (last : attempt + 1 = policy.attempts)
  /-- The signal rises before the pause after the attempt is over. -/
  | isCancelled {time wake : Instant} (rises : rise = some time)
      (due : policy.start? (attempt + 1) = some wake) (before : time < wake)

/-- The result of a call that ends with an attempt of an outcome. -/
def resultOf (policy : RetryPolicy) (retryable : Failure → Bool) (attempt : Nat) :
    Except Failure Value → Except (RetryError Failure) Value
  | .ok value => .ok value
  | .error failure =>
      if retryable failure = false then .error (.nonRetryable failure)
      else if attempt + 1 = policy.attempts then .error (.exhausted policy.attempts failure)
      else .error .cancelled

/-- The number of pauses that follow the last attempt of a call: one that is cut off, if the call is
cancelled. -/
def lastPauses : Except (RetryError Failure) Value → Nat
  | .error .cancelled => 1
  | _ => 0

end RetryPolicy

namespace Rehearsal.Attempts

open RetryPolicy

variable {Failure Value : Type}

/-- The world of an operation with the given outcomes, as many as a call may come to. -/
def scripted (policy : RetryPolicy) (outcomes : Nat → Except Failure Value)
    (signal : Option CancelSignal) : Attempts (Except Failure Value) where
  script := (List.range policy.attempts).map outcomes
  signal := signal

/-- The world shows the first calls and the first pauses of a call with retries, in time. -/
structure Logged {Outcome : Type} (policy : RetryPolicy) (made paused : Nat)
    (world : Attempts Outcome) : Prop where
  calls : world.calls = made
  starts : world.starts.reverse.map some = (List.range made).map policy.start?
  pauses : world.pauses.reverse.map some = (List.range paused).map policy.delay?

section Steps

variable {Outcome : Type} {policy : RetryPolicy} {made paused : Nat} {world : Attempts Outcome}

theorem Logged.perform (logged : Logged policy made paused world)
    (now : policy.start? made = some world.now) (default : Outcome) :
    Logged policy (made + 1) paused (world.perform default).2 where
  calls := by simp [Attempts.perform, logged.calls]
  starts := by simp [Attempts.perform, logged.starts, List.range_succ, now]
  pauses := logged.pauses

theorem Logged.pause (logged : Logged policy made paused world) {delay : Duration}
    (due : policy.delay? paused = some delay) :
    Logged policy made (paused + 1) (world.pause delay).2 where
  calls := logged.calls
  starts := logged.starts
  pauses := by simp [Attempts.pause, logged.pauses, List.range_succ, due]

/-- An operation follows its script. -/
theorem perform_eq_of_script {outcomes : Nat → Outcome} {count : Nat}
    (script : world.script = (List.range count).map outcomes) (within : world.calls < count)
    (default : Outcome) : (world.perform default).1 = outcomes world.calls := by
  have place : min world.calls (count - 1) = world.calls := by omega
  simp [perform, script, place, within]

end Steps

section Pauses

variable {Outcome : Type} {world : Attempts Outcome} {delay : Duration}

theorem pause_eq_true_iff (latched : ∀ present ∈ world.signal, present.IsLatched) :
    (world.pause delay).1 = true ↔
      ∃ time ∈ world.signal.bind CancelSignal.risesAt?, time ≤ world.now.after delay := by
  unfold pause
  cases rises : world.signal.bind CancelSignal.risesAt? with
  | none => simp [CancelSignal.endOfPause_of_never delay world.now rises]
  | some time =>
    rw [CancelSignal.endOfPause_of_rise delay world.now latched rises]
    split <;> simp [*]

theorem now_pause (resumed : (world.pause delay).1 = false) :
    (world.pause delay).2.now = world.now.after delay := by
  unfold pause CancelSignal.endOfPause at resumed ⊢
  dsimp only at resumed ⊢
  split at resumed
  · rfl
  · split at resumed
    · cases resumed
    · simp [*]

end Pauses

section Call

variable {policy : RetryPolicy} {retryable : Failure → Bool}
  {outcomes : Nat → Except Failure Value}

/-! ## Attempts that end the call, and others -/

theorem ends_of_conclude {attempt left : Nat} {answer : Except (RetryError Failure) Value}
    (judged : policy.judge retryable left (outcomes attempt) = .conclude answer)
    (count : attempt + left + 1 = policy.attempts) (rise : Option Instant) :
    policy.Ends retryable outcomes rise attempt ∧
      answer = policy.resultOf retryable attempt (outcomes attempt) ∧ lastPauses answer = 0 := by
  cases outcome : outcomes attempt with
  | ok value =>
    simp only [outcome, judge, Verdict.conclude.injEq] at judged
    subst judged
    exact ⟨.succeeds outcome, rfl, rfl⟩
  | error failure =>
    cases worthwhile : retryable failure with
    | false =>
      simp only [outcome, judge, worthwhile, Bool.not_false, if_true, Verdict.conclude.injEq]
        at judged
      subst judged
      exact ⟨.failsForGood outcome worthwhile, by simp [resultOf, worthwhile], rfl⟩
    | true =>
      by_cases none : left = 0
      · have last : attempt + 1 = policy.attempts := by omega
        simp only [outcome, judge, worthwhile, none, Bool.not_true, Bool.false_eq_true, if_false,
          if_true, Verdict.conclude.injEq] at judged
        subst judged
        exact ⟨.isLast last, by simp [resultOf, worthwhile, last], rfl⟩
      · simp [outcome, judge, worthwhile, none] at judged

/-! ## The whole call -/

/-- A call that was run ends with an attempt: it has the result and the log that go with it. -/
structure EndsWith (policy : RetryPolicy) (retryable : Failure → Bool)
    (outcomes : Nat → Except Failure Value) (last : Nat)
    (run : Except (RetryError Failure) Value × Attempts (Except Failure Value)) : Prop where
  result : run.1 = policy.resultOf retryable last (outcomes last)
  logged : Logged policy (last + 1) (last + lastPauses run.1) run.2
  /-- Without a cancelled pause, no time passes after the last attempt. -/
  clock : lastPauses run.1 = 0 → policy.start? last = some run.2.now

/-- What a call from an attempt on comes to: it ends with the first attempt that ends it. -/
def EndsFrom (policy : RetryPolicy) (retryable : Failure → Bool)
    (outcomes : Nat → Except Failure Value) (rise : Option Instant) (attempt : Nat)
    (run : Except (RetryError Failure) Value × Attempts (Except Failure Value)) : Prop :=
  ∃ last, IsLeast {other | attempt ≤ other ∧ policy.Ends retryable outcomes rise other} last ∧
    EndsWith policy retryable outcomes last run

theorem endsFrom_of_ends {attempt : Nat} {rise : Option Instant}
    {run : Except (RetryError Failure) Value × Attempts (Except Failure Value)}
    (ends : policy.Ends retryable outcomes rise attempt)
    (endsWith : EndsWith policy retryable outcomes attempt run) :
    EndsFrom policy retryable outcomes rise attempt run :=
  ⟨attempt, ⟨⟨le_rfl, ends⟩, fun _ among => among.1⟩, endsWith⟩

theorem endsFrom_of_not_ends {attempt : Nat} {rise : Option Instant}
    {run : Except (RetryError Failure) Value × Attempts (Except Failure Value)}
    (goesOn : ¬policy.Ends retryable outcomes rise attempt)
    (later : EndsFrom policy retryable outcomes rise (attempt + 1) run) :
    EndsFrom policy retryable outcomes rise attempt run := by
  obtain ⟨last, ⟨⟨after, ends⟩, least⟩, endsWith⟩ := later
  refine ⟨last, ⟨⟨by omega, ends⟩, ?_⟩, endsWith⟩
  rintro other ⟨notBefore, otherEnds⟩
  obtain rfl | later := Nat.eq_or_lt_of_le notBefore
  · exact absurd otherEnds goesOn
  · exact least ⟨later, otherEnds⟩

/-- A call is about to make an attempt: the log shows those before, and it is the time of this one.
The signal stays true once it is, and does not rise at the end of a pause. -/
structure Underway (policy : RetryPolicy) (outcomes : Nat → Except Failure Value)
    (rise : Option Instant) (attempt : Nat) (delay : Duration)
    (world : Attempts (Except Failure Value)) : Prop where
  script : world.script = (List.range policy.attempts).map outcomes
  logged : Logged policy attempt attempt world
  now : policy.start? attempt = some world.now
  due : policy.delay? attempt = some delay
  rises : world.signal.bind CancelSignal.risesAt? = rise
  latched : ∀ present ∈ world.signal, present.IsLatched
  apart : ∀ time ∈ rise, ∀ attempt, policy.start? (attempt + 1) ≠ some time

namespace Underway

variable {rise : Option Instant} {attempt left : Nat} {delay : Duration}
  {world : Attempts (Except Failure Value)}
  (underway : Underway policy outcomes rise attempt delay world)
  (default : Except Failure Value)
include underway

theorem wake : policy.start? (attempt + 1) = some (world.now.after delay) := by
  simp [start?, underway.now, underway.due]

theorem outcome_eq (count : attempt + left + 1 = policy.attempts) :
    (world.perform default).1 = outcomes attempt := by
  have within : world.calls < policy.attempts := by
    rw [underway.logged.calls]
    omega
  rw [perform_eq_of_script underway.script within, underway.logged.calls]

theorem pause_iff : ((world.perform default).2.pause delay).1 = true ↔
    ∃ time ∈ rise, time ≤ world.now.after delay := by
  rw [← underway.rises]
  exact pause_eq_true_iff underway.latched

theorem endsFrom_of_concluded (count : attempt + left + 1 = policy.attempts)
    {answer : Except (RetryError Failure) Value}
    (judged : policy.judge retryable left (world.perform default).1 = .conclude answer) :
    EndsFrom policy retryable outcomes rise attempt (answer, (world.perform default).2) := by
  rw [underway.outcome_eq default count] at judged
  obtain ⟨ends, result, noPause⟩ := ends_of_conclude judged count rise
  refine endsFrom_of_ends ends ⟨result, ?_, fun _ => underway.now⟩
  rw [noPause]
  exact underway.logged.perform underway.now default

section Pausing

variable (count : attempt + (left + 1) + 1 = policy.attempts)
  (judged : policy.judge retryable (left + 1) (world.perform default).1 = .pause)
include count judged

theorem retries :
    ∃ failure, outcomes attempt = .error failure ∧ retryable failure = true := by
  obtain ⟨failure, outcome, worthwhile, -⟩ := judge_eq_pause_iff.mp judged
  rw [underway.outcome_eq default count] at outcome
  exact ⟨failure, outcome, worthwhile⟩

theorem endsFrom_of_cancelled (ended : ((world.perform default).2.pause delay).1 = true) :
    EndsFrom policy retryable outcomes rise attempt
      (.error .cancelled, ((world.perform default).2.pause delay).2) := by
  obtain ⟨failure, outcome, worthwhile⟩ := underway.retries default count judged
  obtain ⟨time, rises, notAfter⟩ := (underway.pause_iff default).mp ended
  have notThen : time ≠ world.now.after delay := by
    rintro rfl
    exact underway.apart _ rises attempt underway.wake
  have before : time < world.now.after delay := Instant.lt_of_le_of_ne notAfter notThen
  refine endsFrom_of_ends (.isCancelled rises underway.wake before)
    ⟨?_, ?_, fun noPause => absurd noPause Nat.one_ne_zero⟩
  · have more : attempt + 1 ≠ policy.attempts := by omega
    simp [resultOf, outcome, worthwhile, more]
  · exact (underway.logged.perform underway.now default).pause underway.due

variable (ended : ((world.perform default).2.pause delay).1 = false)
include ended

theorem not_ends : ¬policy.Ends retryable outcomes rise attempt := by
  obtain ⟨failure, outcome, worthwhile⟩ := underway.retries default count judged
  intro ends
  cases ends with
  | succeeds succeeded =>
    rw [outcome] at succeeded
    cases succeeded
  | failsForGood failed final =>
    rw [outcome] at failed
    cases failed
    rw [worthwhile] at final
    cases final
  | isLast last => omega
  | isCancelled rises due before =>
    rw [underway.wake, Option.some.injEq] at due
    subst due
    have cancelled := (underway.pause_iff default).mpr ⟨_, rises, Instant.le_of_lt before⟩
    rw [ended] at cancelled
    cases cancelled

omit count judged in
/-- After a whole pause the call is about to make the next attempt. -/
theorem next {grown : Duration} (grows : policy.nextDelay? delay = some grown) :
    Underway policy outcomes rise (attempt + 1) grown
      ((world.perform default).2.pause delay).2 where
  script := underway.script
  logged := (underway.logged.perform underway.now default).pause underway.due
  now := by
    rw [underway.wake, now_pause ended]
    rfl
  due := by simp [delay?, underway.due, grows]
  rises := underway.rises
  latched := underway.latched
  apart := underway.apart

end Pausing

/-- A call ends with the first attempt that ends it, as long as there are delays. -/
theorem endsFrom {run : Except (RetryError Failure) Value × Attempts (Except Failure Value)}
    (course : CallCourse policy retryable (perform default) pause left delay world run)
    (count : attempt + left + 1 = policy.attempts) (defined : run.1 ≠ .error .delayOutOfRange) :
    EndsFrom policy retryable outcomes rise attempt run := by
  induction course generalizing attempt with
  | concluded judged => exact underway.endsFrom_of_concluded default count judged
  | cancelled judged ended => exact underway.endsFrom_of_cancelled default count judged ended
  | outOfRange judged ended grows => exact absurd rfl defined
  | resumed judged ended grows rest ih =>
    have goesOn := underway.not_ends default count judged ended
    have later := ih (underway.next default ended grows) (by omega) defined
    exact endsFrom_of_not_ends goesOn later

end Underway

end Call

/-- A call with retries of an operation with the given outcomes. -/
def run (policy : RetryPolicy) (retryable : Failure → Bool)
    (outcomes : Nat → Except Failure Value) (default : Except Failure Value)
    (signal : Option CancelSignal) :
    Except (RetryError Failure) Value × Attempts (Except Failure Value) :=
  policy.call retryable (perform default) pause (scripted policy outcomes signal)

/-- The world without its signal, where it has one. -/
def withoutSignal {Outcome : Type} (world : Attempts Outcome) : Attempts Outcome :=
  { world with signal := none }

/-- A signal that never rises, because nothing true is written or because its sender goes, makes no
difference. -/
theorem run_of_never (policy : RetryPolicy) (retryable : Failure → Bool)
    (outcomes : Nat → Except Failure Value) (default : Except Failure Value)
    {signal : Option CancelSignal} (never : signal.bind CancelSignal.risesAt? = none) :
    run policy retryable outcomes default none =
      (run policy retryable outcomes default signal).map id withoutSignal := by
  change policy.call retryable (perform default) pause
    (withoutSignal (scripted policy outcomes signal)) = _
  apply call_view withoutSignal fun world => world.signal.bind CancelSignal.risesAt? = none
  case operationKeeps => exact fun _ never => never
  case pauseKeeps => exact fun _ _ never => never
  case sameOperation => exact fun _ _ => rfl
  case samePause =>
    intro duration world never
    simp [pause, withoutSignal, CancelSignal.endOfPause_of_never duration world.now never,
      CancelSignal.endOfPause_none]
  case holds => exact never

/-- A call makes the attempts up to the first one that succeeds, fails for good, is the last one, or
is followed by a pause in which the signal rises; it has the result that goes with that, and nothing
but a cancelled pause follows its last attempt. A signal that never rises makes no difference. -/
theorem run_ends_with_first (policy : RetryPolicy) (retryable : Failure → Bool)
    (outcomes : Nat → Except Failure Value) (default : Except Failure Value)
    {signal : Option CancelSignal} (latched : ∀ present ∈ signal, present.IsLatched)
    (apart : ∀ time ∈ signal.bind CancelSignal.risesAt?, ∀ attempt,
      policy.start? (attempt + 1) ≠ some time)
    (defined : (run policy retryable outcomes default signal).1 ≠ .error .delayOutOfRange) :
    (∃ last,
      IsLeast {attempt | policy.Ends retryable outcomes (signal.bind CancelSignal.risesAt?) attempt}
        last ∧
      EndsWith policy retryable outcomes last (run policy retryable outcomes default signal)) ∧
    (signal.bind CancelSignal.risesAt? = none →
      run policy retryable outcomes default none =
        (run policy retryable outcomes default signal).map id withoutSignal) := by
  refine ⟨?_, run_of_never policy retryable outcomes default⟩
  have underway : Underway policy outcomes (signal.bind CancelSignal.risesAt?) 0
      policy.initialDelay (scripted policy outcomes signal) := {
    script := rfl
    logged := ⟨rfl, rfl, rfl⟩
    now := rfl
    due := rfl
    rises := rfl
    latched := latched
    apart := apart }
  have positive : 0 < policy.attempts := by
    simp [attempts]
  have count : 0 + (policy.attempts - 1) + 1 = policy.attempts := by omega
  obtain ⟨last, least, endsWith⟩ :=
    underway.endsFrom default (continueCall_course _ _ _) count defined
  simp only [Nat.zero_le, true_and] at least
  exact ⟨last, least, endsWith⟩

/-- Up to four attempts, a tenth of a second and then twice as long apart. -/
def patient : RetryPolicy where
  maxRetries := 3
  initialDelay := .ofMilliseconds 100
  maxDelay := .ofSeconds 5
  multiplier := 2

theorem second_pause_cancelled :
    let failing : Nat → Except String Unit := fun _ => .error "busy"
    let signal := CancelSignal.raisedAt ⟨250 * Duration.millisecond⟩
    let call := run patient (fun _ => true) failing (.error "") signal
    (∃ last, IsLeast {attempt | patient.Ends (fun _ => true) failing signal.risesAt? attempt} last ∧
      EndsWith patient (fun _ => true) failing last call) ∧ call.1 = .error .cancelled := by
  intro failing signal call
  have latched : ∀ present ∈ some signal, present.IsLatched := by
    simp [signal, CancelSignal.raisedAt, CancelSignal.IsLatched, CancelSignal.Latches]
  have apart : ∀ time ∈ (some signal).bind CancelSignal.risesAt?, ∀ attempt,
      patient.start? (attempt + 1) ≠ some time := by
    intro time rises attempt started
    obtain rfl : (⟨250 * Duration.millisecond⟩ : Instant) = time := by
      simpa [signal, CancelSignal.raisedAt, CancelSignal.risesAt?, CancelSignal.firstRise?]
        using rises
    have second : patient.start? 1 = some ⟨100 * Duration.millisecond⟩ := by decide +kernel
    have third : patient.start? 2 = some ⟨300 * Duration.millisecond⟩ := by decide +kernel
    cases attempt with
    | zero =>
      rw [second] at started
      revert started
      decide
    | succ attempt =>
      have tooLate := start?_le (by omega : 2 ≤ attempt + 1 + 1) third started
      revert tooLate
      decide
  have cancelled : call.1 = .error .cancelled := by decide +kernel
  have defined : call.1 ≠ .error .delayOutOfRange := by
    rw [cancelled]
    decide
  exact ⟨(run_ends_with_first patient (fun _ => true) failing (.error "") latched apart
    defined).1, cancelled⟩

end Rehearsal.Attempts

end Fleet
