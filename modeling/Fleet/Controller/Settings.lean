import Fleet.Breaker
import Fleet.Config.Validation
import Fleet.Launch.Plan
import Fleet.Retry
import Fleet.Scaling

/-!
# Settings of the controller

The part of a configuration that the controller works with, in its own types.
-/

namespace Fleet

/-- Why a configuration gives no settings. -/
inductive SettingsError where
  | config (error : ConfigError)
  | launch (error : LaunchError)
  deriving DecidableEq

/-- The text of the error. -/
def SettingsError.message : SettingsError → String
  | config error => error.message
  | launch error => error.message

/-- What the controller is told to do. -/
structure ControllerSettings where
  policy : ScalingPolicy
  /-- The resources requested for each replica. -/
  capability : Capability
  placement : Placement
  tickInterval : Duration
  /-- The age at which an allocation request that was not granted is forgotten. -/
  allocationTimeout : Duration
  breaker : BreakerSettings
  retry : RetryPolicy
  plan : LaunchPlan

/-- The settings that a configuration gives. Of several errors the first one counts, in the order
of retry delays, cooldown, period, allocation timeout, breaker timeout, launch. -/
def ControllerSettings.ofConfig (config : Config) : Except SettingsError ControllerSettings := do
  let ofField (field : Except ConfigError Duration) : Except SettingsError Duration :=
    field.mapError .config
  let (initialDelay, maxDelay) ← config.retryDelays.mapError .config
  let cooldown ← ofField config.cooldown
  let tickInterval ← ofField config.tickInterval
  let allocationTimeout ← ofField config.allocationTimeout
  let resetTimeout ← ofField config.breakerResetTimeout
  let plan ← (LaunchPlan.ofConfig config).mapError .launch
  return {
    policy :=
      { upThreshold := config.scaling.upThreshold
        downThreshold := config.scaling.downThreshold
        minimum := config.scaling.minimum.toNat
        maximum := config.scaling.maximum.toNat
        cooldown }
    capability := config.capability
    placement := config.placement
    tickInterval
    allocationTimeout
    breaker :=
      { failureThreshold := config.controller.breaker.failureThreshold.toNat
        resetTimeout
        halfOpenProbes := config.controller.breaker.halfOpenProbes.toNat }
    retry :=
      { maxRetries := config.controller.retry.maxRetries.toNat
        initialDelay
        maxDelay
        multiplier := config.controller.retry.multiplier }
    plan }

end Fleet
