import Fleet.Proofs.Rehearsal.Attempts

/-!
# What the results of attempts decide

A call that nobody cancels is decided by the results of its attempts alone. It succeeds if an
attempt within the budget gives a value and every earlier one is worth another attempt. Each pause
is followed by the computation of the next delay, and where that is no duration the call breaks off.
-/

namespace Fleet

namespace RetryPolicy

variable {Failure Value : Type} {policy : RetryPolicy} {retryable : Failure → Bool}
  {outcomes : Nat → Except Failure Value}

/-! ## What the results of the attempts decide -/

/-- The result is a failure that is worth another attempt. -/
def IsRetried (retryable : Failure → Bool) (result : Except Failure Value) : Prop :=
  ∃ failure, result = .error failure ∧ retryable failure = true

/-- An attempt within the budget gives a value, and every earlier one is worth another attempt. -/
def Succeeds (policy : RetryPolicy) (retryable : Failure → Bool)
    (outcomes : Nat → Except Failure Value) : Prop :=
  ∃ attempt < policy.attempts, (∃ value, outcomes attempt = .ok value) ∧
    ∀ earlier < attempt, IsRetried retryable (outcomes earlier)

/-- Wherever another attempt is due, the delay after it is a duration. -/
def Endures (policy : RetryPolicy) (retryable : Failure → Bool)
    (outcomes : Nat → Except Failure Value) : Prop :=
  ∀ attempt, attempt + 1 < policy.attempts →
    (∀ earlier ≤ attempt, IsRetried retryable (outcomes earlier)) →
    (policy.delay? (attempt + 1)).isSome = true

/-- A call is about to make an attempt: all before it were worth another one, `left` more attempts
follow at most, and the delay after it is known. -/
structure Reaches (policy : RetryPolicy) (retryable : Failure → Bool)
    (outcomes : Nat → Except Failure Value) (attempt left : Nat) (delay : Duration) : Prop where
  budget : attempt + left + 1 = policy.attempts
  delay : policy.delay? attempt = some delay
  retried : ∀ earlier < attempt, IsRetried retryable (outcomes earlier)

theorem attempts_pos (policy : RetryPolicy) : 0 < policy.attempts := by
  have size : 0 < UInt32.size - 1 := by decide
  exact lt_min (Nat.succ_pos _) size

theorem attempts_le (policy : RetryPolicy) : policy.attempts ≤ policy.maxRetries + 1 :=
  min_le_left _ _

/-- The delays are known up to some attempt. -/
theorem isSome_delay?_of_le {first second : Nat} (order : first ≤ second)
    (known : (policy.delay? second).isSome = true) : (policy.delay? first).isSome = true := by
  induction order with
  | refl => exact known
  | step order ih =>
      apply ih
      simp only [delay?, Option.isSome_bind] at known
      exact Option.isSome_of_any known

theorem not_isRetried_ok (value : Value) :
    ¬IsRetried retryable (.ok value : Except Failure Value) := by
  rintro ⟨failure, same, -⟩
  cases same

theorem reaches_first (policy : RetryPolicy) (retryable : Failure → Bool)
    (outcomes : Nat → Except Failure Value) :
    policy.Reaches retryable outcomes 0 (policy.attempts - 1) policy.initialDelay := by
  refine ⟨?_, rfl, fun earlier before => absurd before (Nat.not_lt_zero earlier)⟩
  have positive := policy.attempts_pos
  omega

section Reaches

variable {attempt left : Nat} {delay : Duration}

theorem Reaches.isRetried_of_pause (reaches : policy.Reaches retryable outcomes attempt left delay)
    (judged : policy.judge retryable left (outcomes attempt) = .pause) :
    left ≠ 0 ∧ ∀ earlier ≤ attempt, IsRetried retryable (outcomes earlier) := by
  rcases judge_eq_pause_iff.mp judged with ⟨failure, failed, worthwhile, more⟩
  refine ⟨more, fun earlier before => ?_⟩
  rcases Nat.lt_or_eq_of_le before with past | rfl
  · exact reaches.retried earlier past
  · exact ⟨failure, failed, worthwhile⟩

/-- After the pause the next attempt is due, if there is a delay for it. -/
theorem Reaches.next {next : Duration}
    (reaches : policy.Reaches retryable outcomes attempt (left + 1) delay)
    (judged : policy.judge retryable (left + 1) (outcomes attempt) = .pause)
    (grows : policy.nextDelay? delay = some next) :
    policy.Reaches retryable outcomes (attempt + 1) left next := by
  refine ⟨?_, ?_, fun earlier before => ?_⟩
  · have budget := reaches.budget
    omega
  · rw [delay?, reaches.delay, Option.bind_some, grows]
  · exact (reaches.isRetried_of_pause judged).2 earlier (Nat.le_of_lt_succ before)

theorem Reaches.not_endures (reaches : policy.Reaches retryable outcomes attempt (left + 1) delay)
    (judged : policy.judge retryable (left + 1) (outcomes attempt) = .pause)
    (grows : policy.nextDelay? delay = none) : ¬policy.Endures retryable outcomes := by
  intro endures
  have budget := reaches.budget
  have known := endures attempt (by omega) (reaches.isRetried_of_pause judged).2
  rw [delay?, reaches.delay, Option.bind_some, grows] at known
  cases known

/-- An attempt that ends the call was the last one, or is not worth another one. -/
theorem Reaches.lt_of_conclude {answer : Except (RetryError Failure) Value}
    (reaches : policy.Reaches retryable outcomes attempt left delay)
    (judged : policy.judge retryable left (outcomes attempt) = .conclude answer) {other : Nat}
    (within : other < policy.attempts)
    (retried : ∀ earlier < other, IsRetried retryable (outcomes earlier)) : other ≤ attempt := by
  by_contra beyond
  have more : left ≠ 0 := by
    have budget := reaches.budget
    omega
  rcases retried attempt (Nat.lt_of_not_le beyond) with ⟨failure, failed, worthwhile⟩
  have pauses : policy.judge retryable left (outcomes attempt) = .pause :=
    judge_eq_pause_iff.mpr ⟨failure, failed, worthwhile, more⟩
  rw [pauses] at judged
  cases judged

/-- A call that ends with an attempt needed no other delay. -/
theorem Reaches.endures {answer : Except (RetryError Failure) Value}
    (reaches : policy.Reaches retryable outcomes attempt left delay)
    (judged : policy.judge retryable left (outcomes attempt) = .conclude answer) :
    policy.Endures retryable outcomes := by
  intro other within retried
  have order := reaches.lt_of_conclude judged within fun earlier before =>
    retried earlier (Nat.le_of_lt_succ before)
  apply isSome_delay?_of_le order
  rw [reaches.delay]
  rfl

/-- A call that ends with an attempt gives a value exactly if the results make it succeed. -/
theorem Reaches.succeeds_iff {answer : Except (RetryError Failure) Value}
    (reaches : policy.Reaches retryable outcomes attempt left delay)
    (judged : policy.judge retryable left (outcomes attempt) = .conclude answer) :
    policy.Succeeds retryable outcomes ↔ answer.isOk = true := by
  constructor
  · rintro ⟨other, within, ⟨value, succeeded⟩, retried⟩
    have order := reaches.lt_of_conclude judged within retried
    have same : other = attempt := by
      by_contra different
      have again := reaches.retried other (Nat.lt_of_le_of_ne order different)
      rw [succeeded] at again
      exact not_isRetried_ok value again
    rw [← same, succeeded] at judged
    cases judged
    rfl
  · intro ended
    cases outcome : outcomes attempt with
    | ok value =>
        refine ⟨attempt, ?_, ⟨value, outcome⟩, reaches.retried⟩
        have budget := reaches.budget
        omega
    | error failure =>
        rw [outcome, judge] at judged
        split at judged
        · cases judged
          cases ended
        · split at judged <;> cases judged
          cases ended

end Reaches

end RetryPolicy

/-! ## Calls in turn -/

/-- The calls of an operation are counted, and their results are given. -/
structure Plays {World Failure Value : Type} (outcomes : Nat → Except Failure Value)
    (calls : World → Nat) (operation : World → Except Failure Value × World) : Prop where
  result : ∀ world, (operation world).1 = outcomes (calls world)
  counted : ∀ world, calls (operation world).2 = calls world + 1


namespace RetryPolicy

variable {World Failure Value : Type} {policy : RetryPolicy} {retryable : Failure → Bool}
  {outcomes : Nat → Except Failure Value} {calls : World → Nat}
  {operation : World → Except Failure Value × World} {pause : Duration → World → Bool × World}

section Comes

variable (plays : Plays outcomes calls operation)
  (uncancelled : ∀ duration world, (pause duration world).1 = false)
  (silent : ∀ duration world, calls (pause duration world).2 = calls world)
include plays uncancelled silent

end Comes

end RetryPolicy

end Fleet
