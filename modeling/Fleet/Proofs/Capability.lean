import Fleet.Capability
import Mathlib.Algebra.BigOperators.Group.List.Basic
import Mathlib.Algebra.GroupWithZero.Nat

/-!
# Amounts of each kind

The three counts of a capability follow the same rules. They are read as plain numbers, so that what
saturated arithmetic gives can be compared with exact sums.
-/

namespace Fleet

/-- What a capability counts. -/
inductive Resource where
  | memory
  | processors
  | accelerators
  deriving DecidableEq

/-- The largest count of a kind. -/
def Resource.limit : Resource → Nat
  | memory => UInt64.size - 1
  | processors | accelerators => UInt32.size - 1

namespace Capability

/-- The count of one kind. -/
def amount (capability : Capability) : Resource → Nat
  | .memory => capability.memory.toNat
  | .processors => capability.processors.toNat
  | .accelerators => capability.accelerators.toNat

theorem amount_le_limit (capability : Capability) (kind : Resource) :
    capability.amount kind ≤ kind.limit := by
  cases kind with
  | memory => exact Nat.le_sub_one_of_lt capability.memory.toNat_lt
  | processors => exact Nat.le_sub_one_of_lt capability.processors.toNat_lt
  | accelerators => exact Nat.le_sub_one_of_lt capability.accelerators.toNat_lt

@[simp]
theorem amount_default (kind : Resource) : ({} : Capability).amount kind = 0 := by
  cases kind <;> rfl

theorem amount_subtract (capability other : Capability) (kind : Resource) :
    (capability.subtract other).amount kind = capability.amount kind - other.amount kind := by
  cases kind with
  | memory =>
      apply UInt64.toNat_ofNat_of_lt'
      exact Nat.lt_of_le_of_lt (Nat.sub_le _ _) capability.memory.toNat_lt
  | processors =>
      apply UInt32.toNat_ofNat_of_lt'
      exact Nat.lt_of_le_of_lt (Nat.sub_le _ _) capability.processors.toNat_lt
  | accelerators =>
      apply UInt32.toNat_ofNat_of_lt'
      exact Nat.lt_of_le_of_lt (Nat.sub_le _ _) capability.accelerators.toNat_lt

theorem amount_add (capability other : Capability) (kind : Resource) :
    (capability.add other).amount kind =
      min (capability.amount kind + other.amount kind) kind.limit := by
  cases kind with
  | memory =>
      apply UInt64.toNat_ofNat_of_lt'
      exact Nat.lt_of_le_of_lt (Nat.min_le_right _ _) (by decide)
  | processors | accelerators =>
      apply UInt32.toNat_ofNat_of_lt'
      exact Nat.lt_of_le_of_lt (Nat.min_le_right _ _) (by decide)

theorem fits_iff (capability other : Capability) :
    capability.fits other = true ↔ ∀ kind, other.amount kind ≤ capability.amount kind := by
  simp only [fits, Bool.and_eq_true, decide_eq_true_eq, UInt64.le_iff_toNat_le,
    UInt32.le_iff_toNat_le]
  constructor
  · rintro ⟨⟨memory, processors⟩, accelerators⟩ kind
    cases kind with
    | memory => exact memory
    | processors => exact processors
    | accelerators => exact accelerators
  · intro within
    exact ⟨⟨within .memory, within .processors⟩, within .accelerators⟩

/-- A saturated sum is the exact one, or the limit where that is less. -/
theorem amount_foldl_add {Item : Type} (items : List Item) (value : Item → Capability)
    (start : Capability) (kind : Resource) :
    (items.foldl (fun total item => total.add (value item)) start).amount kind =
      min (start.amount kind + (items.map fun item => (value item).amount kind).sum)
        kind.limit := by
  induction items generalizing start with
  | nil =>
      have within := start.amount_le_limit kind
      simp only [List.foldl_nil, List.map_nil, List.sum_nil]
      omega
  | cons item rest ih =>
      rw [List.foldl_cons, ih, amount_add, List.map_cons, List.sum_cons]
      omega

end Capability

end Fleet
