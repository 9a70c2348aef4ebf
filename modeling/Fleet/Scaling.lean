import Fleet.Instant

/-!
# Scaling decisions

The number of replicas follows the load: above an upper threshold it grows by one, below a lower
threshold it shrinks by one, within fixed bounds. After a change there is a cooldown without
another one.
-/

namespace Fleet

/-- The thresholds of the load, the bounds of the target and the time between changes. -/
structure ScalingPolicy where
  upThreshold : Binary64 := Binary64.ofDecimal false 7 (-1)
  downThreshold : Binary64 := Binary64.ofDecimal false 2 (-1)
  minimum : Nat := 1
  maximum : Nat := 10
  cooldown : Duration := .ofSeconds 60

/-- The target moved into the bounds; where the bounds are inverted, to the lower one. -/
def ScalingPolicy.clamp (policy : ScalingPolicy) (target : Nat) : Nat :=
  min (max target policy.minimum) (max policy.maximum policy.minimum)

/-- A scaling policy with the time of the last change of the target. -/
structure ScalingDecider where
  policy : ScalingPolicy
  lastChange : Option Instant := none

namespace ScalingDecider

/-- Whether the last change was less than the cooldown ago. -/
def inCooldown (decider : ScalingDecider) (now : Instant) : Bool :=
  match decider.lastChange with
  | none => false
  | some change => now.since change < decider.policy.cooldown

/-- The target that the policy asks for from a target within its bounds, cooldown aside. -/
def step (policy : ScalingPolicy) (current : Nat) (load : Binary64) : Nat :=
  if policy.upThreshold.lt load && current < policy.maximum then current + 1
  else if load.lt policy.downThreshold && policy.minimum < current then current - 1
  else current

/-- The new target for a current one under a load, and the decider after the decision. Only an
actual change starts a cooldown. -/
def decide (decider : ScalingDecider) (current : Nat) (load : Binary64) (now : Instant) :
    Nat × ScalingDecider :=
  let current := decider.policy.clamp current
  if decider.inCooldown now then (current, decider)
  else
    let next := step decider.policy current load
    (next, if next = current then decider else { decider with lastChange := some now })

end ScalingDecider

end Fleet
