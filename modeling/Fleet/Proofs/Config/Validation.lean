import Fleet.Proofs.Binary64
import Fleet.Proofs.Duration
import Fleet.Proofs.Settings

/-!
# Valid configurations

What a configuration has to satisfy is said about its fields, without the checks that look for
violations. Validation accepts exactly the configurations that satisfy it, and in addition those
whose multiplier is not a number: it refuses a multiplier below one, and what is not a number is
below nothing.
-/

namespace Fleet

/-! ## Scaling -/

/-- The bounds allow for a replica, and the thresholds lie in the range from zero to one, with some
space between them. -/
structure ScalingConfig.IsSound (scaling : ScalingConfig) : Prop where
  bounds : scaling.minimum ≤ scaling.maximum
  replicas : 1 ≤ scaling.maximum
  least : Binary64.le 0 scaling.downThreshold = true
  apart : scaling.downThreshold.lt scaling.upThreshold = true
  greatest : scaling.upThreshold.le 1 = true

namespace Config

theorem isOutsideUnit_eq_false_iff {value : Binary64} :
    isOutsideUnit value = false ↔ Binary64.le 0 value = true ∧ value.le 1 = true := by
  simp [isOutsideUnit]

/-- The two ranges and the order of the thresholds make one chain. -/
theorem thresholds_iff {down up : Binary64} :
    isOutsideUnit up = false ∧ isOutsideUnit down = false ∧ up.le down = false ↔
      Binary64.le 0 down = true ∧ down.lt up = true ∧ up.le 1 = true := by
  simp only [isOutsideUnit_eq_false_iff, Binary64.lt_iff]
  constructor
  · rintro ⟨⟨-, upMost⟩, ⟨downLeast, -⟩, apart⟩
    exact ⟨downLeast, ⟨(Binary64.le_iff.mp downLeast).2.1, (Binary64.le_iff.mp upMost).1, apart⟩,
      upMost⟩
  · rintro ⟨downLeast, apart, upMost⟩
    have between := Binary64.le_of_lt (Binary64.lt_iff.mpr apart)
    exact ⟨⟨Binary64.le_trans downLeast between, upMost⟩,
      ⟨downLeast, Binary64.le_trans between upMost⟩, apart.2.2⟩

theorem one_le_iff {number : UInt32} : 1 ≤ number ↔ number ≠ 0 := by
  rw [ne_eq, ← UInt32.toNat_inj, UInt32.le_iff_toNat_le, UInt32.toNat_zero, UInt32.toNat_one]
  omega

theorem validateScaling_eq_ok_iff (scaling : ScalingConfig) :
    validateScaling scaling = .ok () ↔ scaling.IsSound := by
  have thresholds := @thresholds_iff scaling.downThreshold scaling.upThreshold
  simp only [validateScaling, bind_eq_ok_iff, refuseIf_eq_ok_iff, decide_eq_false_iff_not,
    Unique.exists_iff, UInt32.not_lt, thresholds, ← ne_eq, ← one_le_iff]
  constructor
  · rintro ⟨bounds, replicas, least, apart, greatest⟩
    exact ⟨bounds, replicas, least, apart, greatest⟩
  · rintro ⟨bounds, replicas, least, apart, greatest⟩
    exact ⟨bounds, replicas, least, apart, greatest⟩

/-! ## Durations -/

/-- The texts of all fields that hold a duration. -/
def durationTexts (config : Config) : List String :=
  [config.scaling.cooldown, config.controller.tickInterval, config.controller.probeTimeout,
    config.controller.readyTimeout, config.controller.allocationTimeout,
    config.controller.breaker.resetTimeout, config.controller.retry.initialDelay,
    config.controller.retry.maxDelay]

theorem durationField_eq_ok_iff {field text : String} {duration : Duration} :
    durationField field text = .ok duration ↔
      Duration.IsWritten (Text.trim text.toList) duration := by
  rw [durationField, ← Duration.parse?_eq_some_iff]
  cases Duration.parse? text <;> simp

theorem validateDurations_isOk_iff (config : Config) :
    config.validateDurations = .ok () ↔
      (∀ text ∈ config.durationTexts,
        ∃ duration, Duration.IsWritten (Text.trim text.toList) duration) ∧
      ∃ tick, Duration.IsWritten (Text.trim config.controller.tickInterval.toList) tick ∧
        0 < tick.nanoseconds := by
  simp only [validateDurations_eq_ok_iff, cooldown, tickInterval, probeTimeout, readyTimeout,
    allocationTimeout, breakerResetTimeout, retryDelays, exists_bind_eq_ok_iff,
    exists_pure_eq_ok_iff, and_true, exists_and_right, durationField_eq_ok_iff, durationTexts,
    List.forall_mem_cons]
  constructor
  · rintro ⟨cooldown, ⟨tick, written, positive⟩, probe, ready, allocation, reset, initial, greatest⟩
    exact ⟨⟨cooldown, ⟨tick, written⟩, probe, ready, allocation, reset, initial, greatest,
      List.forall_mem_nil _⟩, tick, written, Nat.pos_of_ne_zero positive⟩
  · rintro ⟨⟨cooldown, -, probe, ready, allocation, reset, initial, greatest, -⟩,
      tick, written, positive⟩
    exact ⟨cooldown, ⟨tick, written, positive.ne'⟩, probe, ready, allocation, reset, initial,
      greatest⟩

/-! ## The whole configuration -/

/-- What is asked of the fields of a configuration, apart from the multiplier. -/
structure IsSound (config : Config) : Prop where
  scaling : config.scaling.IsSound
  tensor : 1 ≤ config.server.tensorParallelism
  pipeline : 1 ≤ config.server.pipelineParallelism
  failures : 1 ≤ config.controller.breaker.failureThreshold
  durations : ∀ text ∈ config.durationTexts,
    ∃ duration, Duration.IsWritten (Text.trim text.toList) duration
  tick : ∃ tick, Duration.IsWritten (Text.trim config.controller.tickInterval.toList) tick ∧
    0 < tick.nanoseconds

theorem worldSize_ne_zero_iff {server : ServerConfig} :
    server.worldSize ≠ 0 ↔ 1 ≤ server.tensorParallelism ∧ 1 ≤ server.pipelineParallelism := by
  rw [one_le_iff, one_le_iff, ne_eq, ne_eq, ne_eq, ← UInt32.toNat_inj, ← UInt32.toNat_inj,
    UInt32.toNat_zero, ServerConfig.worldSize, Nat.min_eq_zero_iff, Nat.mul_eq_zero]
  simp only [UInt32.size]
  omega

/-- What is not below one is at least one, or it is not a number. -/
theorem not_lt_one_iff {value : Binary64} :
    value.lt 1 = false ↔ value.isNaN = true ∨ Binary64.le 1 value = true := by
  have number : (1 : Binary64).isNaN = false := by decide
  rw [Binary64.le_iff, number]
  cases value <;> simp [Binary64.isNaN, Binary64.lt]

/-- Validation accepts a configuration exactly if all fields are as they are asked to be, where a
multiplier that is not a number counts as one that is at least one. -/
theorem validate_accepts_iff (config : Config) :
    config.validate = .ok () ↔
      config.IsSound ∧ (config.controller.retry.multiplier.isNaN = true ∨
        Binary64.le 1 config.controller.retry.multiplier = true) := by
  rw [validate_eq_ok_iff, validateScaling_eq_ok_iff, worldSize_ne_zero_iff, ← one_le_iff,
    validateDurations_isOk_iff, not_lt_one_iff]
  constructor
  · rintro ⟨scaling, ⟨tensor, pipeline⟩, failures, multiplier, durations, tick⟩
    exact ⟨⟨scaling, tensor, pipeline, failures, durations, tick⟩, multiplier⟩
  · rintro ⟨⟨scaling, tensor, pipeline, failures, durations, tick⟩, multiplier⟩
    exact ⟨scaling, ⟨tensor, pipeline⟩, failures, multiplier, durations, tick⟩

/-- A multiplier that is not a number is accepted, though it is not at least one. -/
theorem nan_multiplier_accepted :
    let config : Config := { controller := { retry := { multiplier := .nan } } }
    config.validate = .ok () ∧ ¬Binary64.le 1 config.controller.retry.multiplier = true := by
  decide +kernel

end Config

end Fleet
