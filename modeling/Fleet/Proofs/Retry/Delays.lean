import Fleet.Proofs.Config.Validation
import Fleet.Proofs.Duration.Seconds
import Fleet.Proofs.Rehearsal.Attempts

/-!
# The delays of a valid configuration

Each delay follows from the one before by a product in binary floating point, held under the
greatest delay. What a valid configuration asks for keeps the product from being negative, and the
ceiling keeps it finite. The ceiling itself is a duration, but from 1024 seconds below the limit of
durations on it is rounded up to that limit as a number of seconds, and a product that reaches the
limit, or is not a number, then has no delay.
-/

namespace Fleet

open Binary64 (ofNat)

namespace RetryPolicy

variable {policy : RetryPolicy} {count : Nat} {delay : Duration}

/-! ## One step -/

/-- The delay in seconds, grown by the factor. -/
def product (policy : RetryPolicy) (delay : Duration) : Binary64 :=
  delay.toSeconds * policy.multiplier

/-- The product, held under the greatest delay. -/
def capped (policy : RetryPolicy) (delay : Duration) : Binary64 :=
  (policy.product delay).min policy.maxDelay.toSeconds

theorem nextDelay?_eq (policy : RetryPolicy) (delay : Duration) :
    policy.nextDelay? delay = Duration.ofSeconds? (policy.capped delay) :=
  rfl

/-- The delays are durations, and the factor is not below one. -/
structure IsSound (policy : RetryPolicy) : Prop where
  initial : policy.initialDelay.nanoseconds < Duration.limit * Duration.second
  greatest : policy.maxDelay.nanoseconds < Duration.limit * Duration.second
  grows : policy.multiplier.lt 1 = false

/-- The greatest delay becomes the limit of durations as a number of seconds. -/
def CeilingRoundsUp (policy : RetryPolicy) : Prop :=
  2 ^ 64 - 1024 ≤ policy.maxDelay.wholeSeconds

/-- What one step computes: a finite number of seconds that is not negative. It reaches the limit
exactly if the ceiling and the product do, and exactly then it is no duration. -/
structure Steps (policy : RetryPolicy) (delay : Duration) : Prop where
  finite : (policy.capped delay).isFinite = true
  unsigned : (policy.capped delay).lt 0 = false
  reaches : (ofNat Duration.limit).le (policy.capped delay) = true ↔
    policy.CeilingRoundsUp ∧ (policy.product delay).lt (ofNat Duration.limit) = false
  ends : policy.nextDelay? delay = none ↔
    (ofNat Duration.limit).le (policy.capped delay) = true

theorem IsSound.steps (sound : policy.IsSound)
    (inRange : delay.nanoseconds < Duration.limit * Duration.second) : policy.Steps delay := by
  rcases Duration.exists_isSized_toSeconds inRange with ⟨size, ⟨seconds, same, sign, -⟩, -⟩
  rcases Duration.exists_isSized_toSeconds sound.greatest with ⟨greatest, sized, lost⟩
  have unsigned : (policy.product delay).isNegative = false := by
    apply Binary64.isNegative_mul
    · rw [same, Binary64.isNegative, sign]
    · exact Binary64.isNegative_of_not_lt_one sound.grows
  rcases Binary64.exists_isSized_min unsigned sized Duration.isSized_limit with
    ⟨held, heldSized, reaches⟩
  change (policy.capped delay).IsSized held at heldSized
  have compared := Binary64.le_iff_of_isSized Duration.isSized_limit heldSized
  have notBelow := Binary64.lt_iff_of_isSized heldSized Binary64.isSized_zero
  refine ⟨?_, ?_, ?_, ?_⟩
  · rcases heldSized with ⟨value, finite, -⟩
    rw [finite, Binary64.isFinite]
  · rw [← Bool.not_eq_true]
    exact fun below => not_lt_of_ge heldSized.nonneg (notBelow.mp below)
  · rw [compared, reaches, lost, CeilingRoundsUp]
  · rw [nextDelay?_eq, Duration.ofSeconds?_eq_none_iff heldSized, compared]

/-! ## All steps -/

/-- Every delay is below the limit of durations, however many steps lead to it. -/
theorem IsSound.nanoseconds_lt (sound : policy.IsSound) (known : policy.delay? count = some delay) :
    delay.nanoseconds < Duration.limit * Duration.second := by
  cases count with
  | zero =>
      obtain rfl : policy.initialDelay = delay := Option.some.inj known
      exact sound.initial
  | succ count =>
      rcases Option.bind_eq_some_iff.mp known with ⟨before, -, next⟩
      exact Duration.nanoseconds_lt_of_ofSeconds? next

/-- All delays are computed exactly if none of them is followed by nothing. -/
theorem forall_isSome_delay?_iff :
    (∀ count, (policy.delay? count).isSome = true) ↔
      ∀ count delay, policy.delay? count = some delay → policy.nextDelay? delay ≠ none := by
  constructor
  · intro defined count delay known ends
    have next := defined (count + 1)
    rw [delay?, known, Option.bind_some, ends] at next
    cases next
  · intro continues count
    induction count with
    | zero => rfl
    | succ count ih =>
        rcases Option.isSome_iff_exists.mp ih with ⟨delay, known⟩
        rw [delay?, known, Option.bind_some]
        exact Option.isSome_iff_ne_none.mpr (continues count delay known)

theorem IsSound.forall_isSome_iff (sound : policy.IsSound) :
    (∀ count, (policy.delay? count).isSome = true) ↔
      ¬policy.CeilingRoundsUp ∨ ∀ count delay, policy.delay? count = some delay →
        (policy.product delay).lt (ofNat Duration.limit) = true := by
  have ends {count : Nat} {delay : Duration} (known : policy.delay? count = some delay) :
      policy.nextDelay? delay = none ↔
        policy.CeilingRoundsUp ∧ (policy.product delay).lt (ofNat Duration.limit) = false := by
    have steps := sound.steps (sound.nanoseconds_lt known)
    exact steps.ends.trans steps.reaches
  rw [forall_isSome_delay?_iff]
  constructor
  · intro continues
    rw [or_iff_not_imp_left, not_not]
    intro lost count delay known
    by_contra reached
    rw [Bool.not_eq_true] at reached
    exact continues count delay known ((ends known).mpr ⟨lost, reached⟩)
  · rintro (kept | below) count delay known none
    · exact kept ((ends known).mp none).1
    · exact absurd (below count delay known) (Bool.eq_false_iff.mp ((ends known).mp none).2)

end RetryPolicy

/-! ## Policies of configurations -/

namespace Config

/-- The retry policy of a configuration. -/
def retryPolicy (config : Config) : Except ConfigError RetryPolicy := do
  let (initialDelay, maxDelay) ← config.retryDelays
  return {
    maxRetries := config.controller.retry.maxRetries.toNat
    initialDelay
    maxDelay
    multiplier := config.controller.retry.multiplier }

/-- Settings hold the policy of their configuration. -/
theorem retryPolicy_of_settings {config : Config} {settings : ControllerSettings}
    (built : ControllerSettings.ofConfig config = .ok settings) :
    config.retryPolicy = .ok settings.retry := by
  rw [ControllerSettings.ofConfig, bind_eq_ok_iff] at built
  rcases built with ⟨delays, read, built⟩
  rw [mapError_eq_ok_iff] at read
  simp only [bind_eq_ok_iff] at built
  rcases built with ⟨cooldown, -, tick, -, allocation, -, reset, -, plan, -, ⟨⟩⟩
  rw [retryPolicy, read]
  rfl

/-- A valid configuration has a policy, with what validation asks for. -/
theorem exists_retryPolicy {config : Config} (valid : config.validate = .ok ()) :
    ∃ policy, config.retryPolicy = .ok policy ∧ policy.IsSound := by
  rw [validate_eq_ok_iff, validateDurations_eq_ok_iff] at valid
  rcases valid with ⟨-, -, -, grows, -, -, -, -, -, -, ⟨initial, greatest⟩, read⟩
  have written := read
  simp only [retryDelays, bind_eq_ok_iff, durationField_eq_ok_iff] at written
  rcases written with ⟨_, initialWritten, _, greatestWritten, ⟨⟩⟩
  rw [retryPolicy, read]
  exact ⟨_, rfl, initialWritten.nanoseconds_lt, greatestWritten.nanoseconds_lt, grows⟩

/-- Under a valid configuration the product of a delay and the factor, held under the greatest
delay, is always a finite number of seconds that is not negative. It is below the limit of
durations, and the delay after it computed, unless the greatest delay is 1024 seconds or less below
that limit and the product not below it. All delays are computed exactly if this never comes
together. -/
theorem backoff_computed_iff {config : Config} (valid : config.validate = .ok ()) :
    ∃ policy, config.retryPolicy = .ok policy ∧
      (∀ settings, ControllerSettings.ofConfig config = .ok settings → settings.retry = policy) ∧
      (∀ count delay, policy.delay? count = some delay → policy.Steps delay) ∧
      ((∀ count, (policy.delay? count).isSome = true) ↔
        ¬policy.CeilingRoundsUp ∨ ∀ count delay, policy.delay? count = some delay →
          (policy.product delay).lt (ofNat Duration.limit) = true) := by
  rcases exists_retryPolicy valid with ⟨policy, read, sound⟩
  refine ⟨policy, read, fun settings built => ?_, fun count delay known => ?_,
    sound.forall_isSome_iff⟩
  · have same := retryPolicy_of_settings built
    rw [read] at same
    exact (Except.ok.inj same).symm
  · exact sound.steps (sound.nanoseconds_lt known)

/-- One second, grown by a factor of `10 ^ 20` up to a greatest delay. -/
def steep (maxDelay : String) : Config :=
  { controller := { retry := { initialDelay := "1s", maxDelay, multiplier := ofNat (10 ^ 20) } } }

/-- The greatest delay that is not rounded up to the limit is kept to for ever. -/
theorem steep_below_gap_computed :
    let config := steep "18446744073709550591s"
    config.validate = .ok () ∧
      ∃ settings, ControllerSettings.ofConfig config = .ok settings ∧
        ∀ count, (settings.retry.delay? count).isSome = true := by
  have valid : (steep "18446744073709550591s").validate = .ok () := by decide +kernel
  have built : ∃ settings, ControllerSettings.ofConfig (steep "18446744073709550591s") =
      .ok settings ∧ settings.retry.maxDelay = .ofSeconds 18446744073709550591 := ⟨_, rfl, rfl⟩
  rcases built with ⟨settings, built, greatest⟩
  rcases backoff_computed_iff valid with ⟨policy, -, same, -, computed⟩
  obtain rfl := same settings built
  refine ⟨valid, settings, built, computed.mpr (Or.inl ?_)⟩
  rw [RetryPolicy.CeilingRoundsUp, greatest]
  decide

/-- With the greatest duration that can be written the first delay has none after it. -/
theorem steep_to_greatest_ends :
    let config := steep "18446744073709551615s"
    config.validate = .ok () ∧
      ∃ settings, ControllerSettings.ofConfig config = .ok settings ∧
        settings.retry.delay? 1 = none :=
  ⟨by decide +kernel, _, rfl, by decide +kernel⟩

end Config

end Fleet
