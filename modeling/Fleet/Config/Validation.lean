import Fleet.Config.Basic
import Fleet.Decimal.Layout
import Fleet.Duration
import Fleet.Text.Quoted

/-!
# Checking configurations

Durations are read from their texts on demand. Validation checks the fields against each other and
reports the first violation, in a fixed order.
-/

namespace Fleet

/-- What is wrong with a configuration. -/
inductive ConfigError where
  /-- The named field holds no duration. -/
  | duration (field value : String)
  | replicaBounds (minimum maximum : Nat)
  | noReplicas
  | thresholdRange (field : String) (value : Binary64)
  | thresholdOrder (down up : Binary64)
  | noParallelism
  | noFailures
  | multiplier (value : Binary64)
  | tickInterval
  deriving DecidableEq

namespace ConfigError

/-- A number as it is shown in messages. -/
def number (value : Binary64) : String :=
  String.ofList (Decimal.plain.write value)

/-- The text of the error. -/
def message : ConfigError → String
  | duration field value => "invalid duration for " ++ field ++ ": " ++ Text.quoted value
  | replicaBounds minimum maximum =>
      "invalid config: scaling.min_replicas (" ++ Nat.repr minimum ++
        ") exceeds scaling.max_replicas (" ++ Nat.repr maximum ++ ")"
  | noReplicas => "invalid config: scaling.max_replicas must be at least 1"
  | thresholdRange field value =>
      "invalid config: scaling." ++ field ++ " must be within [0, 1], got " ++ number value
  | thresholdOrder down up =>
      "invalid config: scaling.down_threshold (" ++ number down ++
        ") must be below scaling.up_threshold (" ++ number up ++ ")"
  | noParallelism =>
      "invalid config: tensor and pipeline parallelism must both be at least 1"
  | noFailures => "invalid config: controller.breaker.failure_threshold must be at least 1"
  | multiplier value =>
      "invalid config: controller.retry.multiplier must be >= 1.0, got " ++ number value
  | tickInterval => "invalid config: controller.tick_interval must be positive"

end ConfigError

namespace Config

/-- The duration in a named field. -/
def durationField (field value : String) : Except ConfigError Duration :=
  match Duration.parse? value with
  | some duration => .ok duration
  | none => .error (.duration field value)

/-- The time between two changes of scale. -/
def cooldown (config : Config) : Except ConfigError Duration :=
  durationField "scaling.cooldown" config.scaling.cooldown

/-- The period of the controller's rounds. -/
def tickInterval (config : Config) : Except ConfigError Duration :=
  durationField "controller.tick_interval" config.controller.tickInterval

/-- The time limit of a metrics probe. -/
def probeTimeout (config : Config) : Except ConfigError Duration :=
  durationField "controller.probe_timeout" config.controller.probeTimeout

/-- The time limit of a readiness probe. -/
def readyTimeout (config : Config) : Except ConfigError Duration :=
  durationField "controller.ready_timeout" config.controller.readyTimeout

/-- The time after which an allocation request is forgotten. -/
def allocationTimeout (config : Config) : Except ConfigError Duration :=
  durationField "controller.allocation_timeout" config.controller.allocationTimeout

/-- The time for which an open breaker refuses calls. -/
def breakerResetTimeout (config : Config) : Except ConfigError Duration :=
  durationField "controller.breaker.reset_timeout" config.controller.breaker.resetTimeout

/-- The first and the greatest delay between retries. -/
def retryDelays (config : Config) : Except ConfigError (Duration × Duration) := do
  let initial ← durationField "controller.retry.initial_delay" config.controller.retry.initialDelay
  let greatest ← durationField "controller.retry.max_delay" config.controller.retry.maxDelay
  return (initial, greatest)

/-- Success where a condition does not hold, and an error where it does. -/
def refuseIf (condition : Bool) (error : ConfigError) : Except ConfigError Unit :=
  if condition then .error error else .ok ()

/-- Whether a threshold is outside of the range from zero to one; so is what is not a number. -/
def isOutsideUnit (value : Binary64) : Bool :=
  !(Binary64.le 0 value && Binary64.le value 1)

/-- The check of the scaling section. -/
def validateScaling (scaling : ScalingConfig) : Except ConfigError Unit := do
  refuseIf (scaling.maximum < scaling.minimum)
    (.replicaBounds scaling.minimum.toNat scaling.maximum.toNat)
  refuseIf (scaling.maximum = 0) .noReplicas
  refuseIf (isOutsideUnit scaling.upThreshold) (.thresholdRange "up_threshold" scaling.upThreshold)
  refuseIf (isOutsideUnit scaling.downThreshold)
    (.thresholdRange "down_threshold" scaling.downThreshold)
  refuseIf (Binary64.le scaling.upThreshold scaling.downThreshold)
    (.thresholdOrder scaling.downThreshold scaling.upThreshold)

/-- The check of all durations. -/
def validateDurations (config : Config) : Except ConfigError Unit := do
  let _ ← config.cooldown
  let tick ← config.tickInterval
  refuseIf (tick.nanoseconds = 0) .tickInterval
  let _ ← config.probeTimeout
  let _ ← config.readyTimeout
  let _ ← config.allocationTimeout
  let _ ← config.breakerResetTimeout
  let _ ← config.retryDelays

/-- The check of a whole configuration. -/
def validate (config : Config) : Except ConfigError Unit := do
  validateScaling config.scaling
  refuseIf (config.server.worldSize = 0) .noParallelism
  refuseIf (config.controller.breaker.failureThreshold = 0) .noFailures
  refuseIf (config.controller.retry.multiplier.lt 1)
    (.multiplier config.controller.retry.multiplier)
  validateDurations config

end Config

end Fleet
