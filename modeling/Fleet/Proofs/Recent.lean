import Fleet.Recent
import Mathlib.Data.List.DropRight

/-!
# What is left of a history

A history may be pushed in parts. Of the whole of it, the last items are left.
-/

namespace Fleet.Recent

variable {capacity : Nat} {Item : Type}

/-- What was dropped early would have been dropped later. -/
theorem rtake_append_rtake (early late : List Item) :
    (early.rtake capacity ++ late).rtake capacity = (early ++ late).rtake capacity := by
  have within : early.length - capacity ≤ early.length := Nat.sub_le _ _
  rw [List.rtake, List.rtake, List.rtake, ← List.drop_append_of_le_length within, List.drop_drop]
  congr 1
  simp only [List.length_drop, List.length_append]
  omega

theorem getLast?_rtake_concat (positive : 0 < capacity) (items : List Item) (item : Item) :
    ((items ++ [item]).rtake capacity).getLast? = some item := by
  have within : ¬(items ++ [item]).length ≤ (items ++ [item]).length - capacity := by
    rw [List.length_append, List.length_singleton]
    omega
  rw [List.rtake, List.getLast?_drop, if_neg within, List.getLast?_concat]

theorem rtake_items (recent : Recent capacity Item) :
    recent.items.rtake capacity = recent.items := by
  rw [List.rtake, Nat.sub_eq_zero_of_le recent.length_le, List.drop_zero]

theorem items_push (recent : Recent capacity Item) (item : Item) :
    (recent.push item).items = (recent.items ++ [item]).rtake capacity := by
  rw [List.rtake, List.length_append, List.length_singleton]
  rfl

/-- A history that is pushed leaves its last items. -/
theorem items_pushAll (recent : Recent capacity Item) (items : List Item) :
    (recent.pushAll items).items = (recent.items ++ items).rtake capacity := by
  induction items generalizing recent with
  | nil =>
      rw [List.append_nil]
      exact recent.rtake_items.symm
  | cons item items ih =>
      calc (recent.pushAll (item :: items)).items
          = ((recent.push item).items ++ items).rtake capacity := ih (recent.push item)
        _ = ((recent.items ++ [item]) ++ items).rtake capacity := by
            rw [items_push, rtake_append_rtake]
        _ = (recent.items ++ item :: items).rtake capacity := by
            rw [List.append_assoc, List.singleton_append]

end Fleet.Recent
