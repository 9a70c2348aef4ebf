/-!
# Resources

What a node offers, what a replica needs, and the arithmetic between them, which stays within the
range of the counts.
-/

namespace Fleet

/-- An amount of memory, processors and accelerators. -/
structure Capability where
  memory : UInt64 := 0
  processors : UInt32 := 0
  accelerators : UInt32 := 0
  deriving DecidableEq, Repr, Inhabited

namespace Capability

/-- Whether another amount is contained in this one. -/
def fits (capability other : Capability) : Bool :=
  other.memory ≤ capability.memory && other.processors ≤ capability.processors &&
    other.accelerators ≤ capability.accelerators

/-- What is left after taking away another amount, not less than nothing. -/
def subtract (capability other : Capability) : Capability where
  memory := UInt64.ofNat (capability.memory.toNat - other.memory.toNat)
  processors := UInt32.ofNat (capability.processors.toNat - other.processors.toNat)
  accelerators := UInt32.ofNat (capability.accelerators.toNat - other.accelerators.toNat)

/-- Both amounts together, not more than the counts can hold. -/
def add (capability other : Capability) : Capability where
  memory := UInt64.ofNat (min (capability.memory.toNat + other.memory.toNat) (UInt64.size - 1))
  processors :=
    UInt32.ofNat (min (capability.processors.toNat + other.processors.toNat) (UInt32.size - 1))
  accelerators :=
    UInt32.ofNat (min (capability.accelerators.toNat + other.accelerators.toNat) (UInt32.size - 1))

/-- The amount as it is shown in messages. -/
def describe (capability : Capability) : String :=
  "ResourceCapability \x7b memory_mb: " ++ Nat.repr capability.memory.toNat ++ ", vcores: " ++
    Nat.repr capability.processors.toNat ++ ", gpus: " ++
    Nat.repr capability.accelerators.toNat ++ " \x7d"

end Capability

end Fleet
