import Fleet.Duration

/-!
# Retries with growing delays

An operation that fails is attempted again after a delay, which grows by a factor up to a ceiling.
Only failures that are worth retrying are, and only a limited number of times. A pause between two
attempts can be ended by a cancellation, which ends the whole call.
-/

namespace Fleet

/-- How often an operation is attempted, and how long to wait in between. -/
structure RetryPolicy where
  maxRetries : Nat
  initialDelay : Duration
  maxDelay : Duration
  multiplier : Binary64

/-- Why a call with retries gave no value. -/
inductive RetryError (Failure : Type) where
  /-- Every attempt failed; the last failure is kept. -/
  | exhausted (attempts : Nat) (last : Failure)
  /-- A failure is not worth retrying. -/
  | nonRetryable (failure : Failure)
  /-- A pause was cancelled. -/
  | cancelled
  /-- The delay after a pause is negative or too long to be a duration. -/
  | delayOutOfRange
  deriving DecidableEq

namespace RetryError

variable {Failure : Type}

/-- The failure of the operation itself, if one ended the call. -/
def inner? : RetryError Failure → Option Failure
  | exhausted _ last => some last
  | nonRetryable failure => some failure
  | cancelled | delayOutOfRange => none

/-- The text of the error, given the texts of failures. -/
def message (describe : Failure → String) : RetryError Failure → String
  | exhausted attempts last =>
      "gave up after " ++ Nat.repr attempts ++ " attempts: " ++ describe last
  | nonRetryable failure => "non-retryable failure: " ++ describe failure
  | cancelled => "retry cancelled by shutdown"
  | delayOutOfRange => "retry delay out of range"

end RetryError

namespace RetryPolicy

/-- The delay after the given one: grown by the factor, at most the ceiling. There is none where
the result is no duration. -/
def nextDelay? (policy : RetryPolicy) (delay : Duration) : Option Duration :=
  Duration.ofSeconds? ((delay.toSeconds * policy.multiplier).min policy.maxDelay.toSeconds)

/-- The number of attempts: one more than the retries, within a 32-bit count. -/
def attempts (policy : RetryPolicy) : Nat :=
  min (policy.maxRetries + 1) (UInt32.size - 1)

variable {World Failure Value : Type}

/-- What follows from the result of one attempt when `left` more attempts are allowed. -/
inductive Verdict (Failure Value : Type) where
  /-- The call ends with this result. -/
  | conclude (result : Except (RetryError Failure) Value)
  /-- The operation is attempted again after a pause. -/
  | pause

/-- The verdict on the result of an attempt. -/
def judge (policy : RetryPolicy) (retryable : Failure → Bool) (left : Nat) :
    Except Failure Value → Verdict Failure Value
  | .ok value => .conclude (.ok value)
  | .error failure =>
      if !retryable failure then .conclude (.error (.nonRetryable failure))
      else if left = 0 then .conclude (.error (.exhausted policy.attempts failure))
      else .pause

/-- The call from an attempt on, where `left` more attempts are allowed after it. A pause answers
whether it was cancelled. -/
def continueCall (policy : RetryPolicy) (retryable : Failure → Bool)
    (operation : World → Except Failure Value × World)
    (pause : Duration → World → Bool × World) :
    (left : Nat) → Duration → World → Except (RetryError Failure) Value × World
  | left, delay, world =>
      let (result, world) := operation world
      match policy.judge retryable left result, left with
      | .conclude result, _ => (result, world)
      | .pause, 0 => (.error .cancelled, world)
      | .pause, left + 1 =>
          match pause delay world with
          | (true, world) => (.error .cancelled, world)
          | (false, world) =>
              match policy.nextDelay? delay with
              | none => (.error .delayOutOfRange, world)
              | some next => continueCall policy retryable operation pause left next world

/-- An operation with its retries. -/
def call (policy : RetryPolicy) (retryable : Failure → Bool)
    (operation : World → Except Failure Value × World)
    (pause : Duration → World → Bool × World) (world : World) :
    Except (RetryError Failure) Value × World :=
  policy.continueCall retryable operation pause (policy.attempts - 1) policy.initialDelay world

end RetryPolicy

end Fleet
