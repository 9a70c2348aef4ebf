/-!
# Recent items

A `Recent` holds the last few items of a history, oldest first. When it is full, each new item
drops the oldest one.
-/

namespace Fleet

/-- At most `capacity` items, oldest first. -/
structure Recent (capacity : Nat) (Item : Type) where
  items : List Item
  length_le : items.length ≤ capacity

namespace Recent

variable {capacity : Nat} {Item : Type}

instance [DecidableEq Item] : DecidableEq (Recent capacity Item) := fun first second =>
  match decEq first.items second.items with
  | isTrue equal => isTrue (by cases first; cases second; cases equal; rfl)
  | isFalse different => isFalse fun equal => different (congrArg items equal)

/-- No items. -/
def empty : Recent capacity Item := ⟨[], Nat.zero_le _⟩

instance : Inhabited (Recent capacity Item) := ⟨empty⟩

/-- The items after one more; the oldest ones go where there are too many. -/
def push (recent : Recent capacity Item) (item : Item) : Recent capacity Item where
  items := (recent.items ++ [item]).drop (recent.items.length + 1 - capacity)
  length_le := by
    have bound := recent.length_le
    simp only [List.length_drop, List.length_append, List.length_cons, List.length_nil]
    omega

/-- The items after several more, in order. -/
def pushAll (recent : Recent capacity Item) (items : List Item) : Recent capacity Item :=
  items.foldl push recent

end Recent

end Fleet
