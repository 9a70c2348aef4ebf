import Fleet.Retry

/-!
# Calls with retries

A call with retries makes attempts and pauses in turn. What every attempt and every pause keeps,
the whole call keeps; and a call whose first attempt succeeds, or fails for good, is that attempt.
-/

namespace Fleet.RetryPolicy

variable {World Failure Value : Type} {policy : RetryPolicy} {retryable : Failure → Bool}
  {operation : World → Except Failure Value × World} {pause : Duration → World → Bool × World}

/-! ## One attempt -/

theorem judge_eq_pause_iff {left : Nat} {result : Except Failure Value} :
    policy.judge retryable left result = .pause ↔
      ∃ failure, result = .error failure ∧ retryable failure = true ∧ left ≠ 0 := by
  cases result with
  | ok value => simp [judge]
  | error failure =>
      cases worthwhile : retryable failure with
      | false => simp [judge, worthwhile]
      | true => by_cases none : left = 0 <;> simp [judge, worthwhile, none]

theorem judge_zero_ne_pause {result : Except Failure Value} :
    policy.judge retryable 0 result ≠ .pause := by
  rw [Ne, judge_eq_pause_iff]
  simp

/-- How a call goes from an attempt on, and what it comes to. -/
inductive CallCourse (policy : RetryPolicy) (retryable : Failure → Bool)
    (operation : World → Except Failure Value × World)
    (pause : Duration → World → Bool × World) :
    (left : Nat) → Duration → World → Except (RetryError Failure) Value × World → Prop where
  | concluded {left : Nat} {delay : Duration} {world : World}
      {answer : Except (RetryError Failure) Value}
      (judged : policy.judge retryable left (operation world).1 = .conclude answer) :
      CallCourse policy retryable operation pause left delay world (answer, (operation world).2)
  | cancelled {left : Nat} {delay : Duration} {world : World}
      (judged : policy.judge retryable (left + 1) (operation world).1 = .pause)
      (ended : (pause delay (operation world).2).1 = true) :
      CallCourse policy retryable operation pause (left + 1) delay world
        (.error .cancelled, (pause delay (operation world).2).2)
  | outOfRange {left : Nat} {delay : Duration} {world : World}
      (judged : policy.judge retryable (left + 1) (operation world).1 = .pause)
      (ended : (pause delay (operation world).2).1 = false)
      (grows : policy.nextDelay? delay = none) :
      CallCourse policy retryable operation pause (left + 1) delay world
        (.error .delayOutOfRange, (pause delay (operation world).2).2)
  | resumed {left : Nat} {delay next : Duration} {world : World}
      {run : Except (RetryError Failure) Value × World}
      (judged : policy.judge retryable (left + 1) (operation world).1 = .pause)
      (ended : (pause delay (operation world).2).1 = false)
      (grows : policy.nextDelay? delay = some next)
      (rest : CallCourse policy retryable operation pause left next
        (pause delay (operation world).2).2 run) :
      CallCourse policy retryable operation pause (left + 1) delay world run

/-- The function follows the course. -/
theorem CallCourse.eq {left : Nat} {delay : Duration} {world : World}
    {run : Except (RetryError Failure) Value × World}
    (course : CallCourse policy retryable operation pause left delay world run) :
    policy.continueCall retryable operation pause left delay world = run := by
  induction course with
  | concluded judged =>
      unfold continueCall
      simp only [judged]
  | @cancelled left delay world judged ended =>
      rw [continueCall]
      simp only [judged]
      cases paused : pause delay (operation world).2 with
      | mk cancelled resumed =>
          rw [paused] at ended
          subst ended
          rfl
  | @outOfRange left delay world judged ended grows =>
      rw [continueCall]
      simp only [judged]
      cases paused : pause delay (operation world).2 with
      | mk cancelled resumed =>
          rw [paused] at ended
          subst ended
          simp only [grows]
  | @resumed left delay next world run judged ended grows rest ih =>
      rw [continueCall]
      simp only [judged]
      rw [← ih]
      cases paused : pause delay (operation world).2 with
      | mk cancelled resumed =>
          rw [paused] at ended
          subst ended
          simp only [grows]

/-- Each call has a course. -/
theorem continueCall_course (left : Nat) (delay : Duration) (world : World) :
    CallCourse policy retryable operation pause left delay world
      (policy.continueCall retryable operation pause left delay world) := by
  suffices ∃ run, CallCourse policy retryable operation pause left delay world run by
    obtain ⟨run, course⟩ := this
    rwa [course.eq]
  induction left generalizing delay world with
  | zero =>
      cases judged : policy.judge retryable 0 (operation world).1 with
      | conclude answer => exact ⟨_, .concluded judged⟩
      | pause => exact absurd judged judge_zero_ne_pause
  | succ left ih =>
      cases judged : policy.judge retryable (left + 1) (operation world).1 with
      | conclude answer => exact ⟨_, .concluded judged⟩
      | pause =>
          cases ended : (pause delay (operation world).2).1 with
          | true => exact ⟨_, .cancelled judged ended⟩
          | false =>
              cases grows : policy.nextDelay? delay with
              | none => exact ⟨_, .outOfRange judged ended grows⟩
              | some next =>
                  obtain ⟨run, rest⟩ := ih next (pause delay (operation world).2).2
                  exact ⟨run, .resumed judged ended grows rest⟩

/-! ## What a call keeps -/

section Keeps

variable (Holds : World → Prop) (operationKeeps : ∀ world, Holds world → Holds (operation world).2)
  (pauseKeeps : ∀ duration world, Holds world → Holds (pause duration world).2)
include operationKeeps pauseKeeps

theorem CallCourse.keeps_of_first {left : Nat} {delay : Duration} {world : World}
    {run : Except (RetryError Failure) Value × World}
    (course : CallCourse policy retryable operation pause left delay world run)
    (first : Holds (operation world).2) : Holds run.2 := by
  induction course with
  | concluded judged => exact first
  | cancelled judged ended => exact pauseKeeps _ _ first
  | outOfRange judged ended grows => exact pauseKeeps _ _ first
  | resumed judged ended grows rest ih => exact ih (operationKeeps _ (pauseKeeps _ _ first))

/-- What the first attempt reaches, and every later attempt and every pause keeps, the call
reaches. -/
theorem call_keeps_of_first {world : World} (first : Holds (operation world).2) :
    Holds (policy.call retryable operation pause world).2 :=
  (continueCall_course _ _ world).keeps_of_first Holds operationKeeps pauseKeeps first

/-- What every attempt and every pause keeps, the call keeps. -/
theorem call_keeps {world : World} (holds : Holds world) :
    Holds (policy.call retryable operation pause world).2 :=
  call_keeps_of_first Holds operationKeeps pauseKeeps (operationKeeps world holds)

end Keeps

section Simulation

variable {Other : Type} {otherOperation : Other → Except Failure Value × Other}
  {otherPause : Duration → Other → Bool × Other} (view : World → Other) (Holds : World → Prop)
  (operationKeeps : ∀ world, Holds world → Holds (operation world).2)
  (pauseKeeps : ∀ duration world, Holds world → Holds (pause duration world).2)
  (sameOperation : ∀ world, Holds world →
    otherOperation (view world) = (operation world).map id view)
  (samePause : ∀ duration world, Holds world →
    otherPause duration (view world) = (pause duration world).map id view)
include operationKeeps pauseKeeps sameOperation samePause

omit pauseKeeps in
theorem pause_view {world : World} (holds : Holds world) (duration : Duration) :
    otherPause duration (otherOperation (view world)).2 =
      (pause duration (operation world).2).map id view := by
  rw [sameOperation world holds]
  exact samePause duration _ (operationKeeps world holds)

theorem CallCourse.viewed {left : Nat} {delay : Duration} {world : World}
    {run : Except (RetryError Failure) Value × World}
    (course : CallCourse policy retryable operation pause left delay world run)
    (holds : Holds world) :
    CallCourse policy retryable otherOperation otherPause left delay (view world)
      (run.map id view) := by
  induction course with
  | @concluded left delay world answer judged =>
      have operated := sameOperation world holds
      have other : CallCourse policy retryable otherOperation otherPause left delay (view world)
          (answer, (otherOperation (view world)).2) := .concluded (by rwa [operated])
      rwa [operated] at other
  | @cancelled left delay world judged ended =>
      have operated := sameOperation world holds
      have paused := pause_view view Holds operationKeeps sameOperation samePause holds delay
      have other : CallCourse policy retryable otherOperation otherPause (left + 1) delay
          (view world) (.error .cancelled, (otherPause delay (otherOperation (view world)).2).2) :=
        .cancelled (by rwa [operated]) (by rwa [paused])
      rwa [paused] at other
  | @outOfRange left delay world judged ended grows =>
      have operated := sameOperation world holds
      have paused := pause_view view Holds operationKeeps sameOperation samePause holds delay
      have other : CallCourse policy retryable otherOperation otherPause (left + 1) delay
          (view world)
          (.error .delayOutOfRange, (otherPause delay (otherOperation (view world)).2).2) :=
        .outOfRange (by rwa [operated]) (by rwa [paused]) grows
      rwa [paused] at other
  | @resumed left delay next world run judged ended grows rest ih =>
      have operated := sameOperation world holds
      have paused := pause_view view Holds operationKeeps sameOperation samePause holds delay
      have later := ih (pauseKeeps delay _ (operationKeeps world holds))
      exact .resumed (by rwa [operated]) (by rwa [paused]) grows (by rwa [paused])

/-- Two worlds in which attempts and pauses go alike have the same calls. -/
theorem call_view {world : World} (holds : Holds world) :
    policy.call retryable otherOperation otherPause (view world) =
      (policy.call retryable operation pause world).map id view :=
  ((continueCall_course _ _ world).viewed view Holds operationKeeps pauseKeeps sameOperation
    samePause holds).eq

end Simulation

/-! ## Calls of one attempt -/

/-- A call whose first attempt succeeds ends with it. -/
theorem call_eq_ok {world next : World} {value : Value}
    (succeeds : operation world = (.ok value, next)) :
    policy.call retryable operation pause world = (.ok value, next) := by
  unfold call continueCall
  rw [succeeds]
  rfl

/-- A call ends with a failure that is not worth retrying. -/
theorem call_eq_nonRetryable {world next : World} {failure : Failure}
    (fails : operation world = (.error failure, next)) (final : retryable failure = false) :
    policy.call retryable operation pause world = (.error (.nonRetryable failure), next) := by
  unfold call continueCall
  simp only [fails, judge, final]
  rfl

/-- No attempt follows the result. -/
def Concludes (retryable : Failure → Bool) (result : Except Failure Value) : Prop :=
  ∀ failure, result = .error failure → retryable failure = false

theorem concludes_ok (value : Value) : Concludes retryable (.ok value) := by
  rintro failure ⟨⟩

theorem concludes_error {failure : Failure} (final : retryable failure = false) :
    Concludes retryable (.error failure : Except Failure Value) := by
  rintro _ ⟨⟩
  exact final

theorem judge_of_concludes {result : Except Failure Value} (concludes : Concludes retryable result)
    (left : Nat) :
    policy.judge retryable left result = .conclude (result.mapError .nonRetryable) := by
  cases result with
  | error failure => simp only [judge, concludes failure rfl, Bool.not_false, if_true]; rfl
  | ok value => rfl

/-- A call is its first attempt if no attempt follows that. -/
theorem call_of_concludes {world : World} (concludes : Concludes retryable (operation world).1) :
    policy.call retryable operation pause world =
      ((operation world).1.mapError .nonRetryable, (operation world).2) := by
  rcases attempted : operation world with ⟨failure | value, next⟩
  · exact call_eq_nonRetryable attempted (concludes failure (by rw [attempted]))
  · exact call_eq_ok attempted

end Fleet.RetryPolicy
