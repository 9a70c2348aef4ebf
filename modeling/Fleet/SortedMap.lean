/-!
# Maps sorted by key

A `SortedMap` holds one value for each of finitely many names, in the order of the names by code
point. Two maps are equal exactly when they hold the same values under the same names, so every
order in which values were stored gives the same map.
-/

namespace Fleet

/-- A finite map from names to values, as the list of its entries with strictly ascending names. -/
structure SortedMap (Value : Type) where
  entries : List (String × Value)
  ascending : entries.Pairwise fun first second => first.1 < second.1

namespace SortedMap

variable {Value Other : Type}

instance [DecidableEq Value] : DecidableEq (SortedMap Value) := fun first second =>
  match decEq first.entries second.entries with
  | isTrue equal => isTrue (by cases first; cases second; cases equal; rfl)
  | isFalse different => isFalse fun equal => different (congrArg entries equal)

/-- The map without entries. -/
def empty : SortedMap Value := ⟨[], .nil⟩

instance : Inhabited (SortedMap Value) := ⟨empty⟩
instance : EmptyCollection (SortedMap Value) := ⟨empty⟩

/-- The names that hold a value, ascending. -/
def keys (map : SortedMap Value) : List String := map.entries.map Prod.fst

/-- The values in the order of their names. -/
def values (map : SortedMap Value) : List Value := map.entries.map Prod.snd

/-- The value under a name. -/
def get? (map : SortedMap Value) (key : String) : Option Value :=
  map.entries.lookup key

/-- Whether a name holds a value. -/
def contains (map : SortedMap Value) (key : String) : Bool :=
  (map.get? key).isSome

/-- The entries with one value stored under a name, in place of an earlier one. -/
def insertEntry (key : String) (value : Value) : List (String × Value) → List (String × Value)
  | [] => [(key, value)]
  | (other, held) :: rest =>
      if key < other then (key, value) :: (other, held) :: rest
      else if key = other then (key, value) :: rest
      else (other, held) :: insertEntry key value rest

theorem mem_insertEntry {key : String} {value : Value} {entries : List (String × Value)}
    {entry : String × Value} (member : entry ∈ insertEntry key value entries) :
    entry = (key, value) ∨ entry ∈ entries := by
  induction entries with
  | nil => simpa [insertEntry] using member
  | cons head rest ih =>
      obtain ⟨other, held⟩ := head
      unfold insertEntry at member
      split at member
      · simpa using member
      · split at member
        · rcases List.mem_cons.1 member with found | found
          · exact Or.inl found
          · exact Or.inr (List.mem_cons_of_mem _ found)
        · rcases List.mem_cons.1 member with found | found
          · exact Or.inr (found ▸ List.mem_cons_self)
          · rcases ih found with here | here
            · exact Or.inl here
            · exact Or.inr (List.mem_cons_of_mem _ here)

theorem lt_of_not_lt_of_ne {first second : String} (notBelow : ¬first < second)
    (different : first ≠ second) : second < first := by
  have atMost : second ≤ first := String.not_lt.1 notBelow
  cases Decidable.em (second < first) with
  | inl below => exact below
  | inr notAbove => exact absurd (String.le_antisymm (String.not_lt.1 notAbove) atMost) different

theorem pairwise_insertEntry (key : String) (value : Value) {entries : List (String × Value)}
    (ascending : entries.Pairwise fun first second => first.1 < second.1) :
    (insertEntry key value entries).Pairwise fun first second => first.1 < second.1 := by
  induction entries with
  | nil => simp [insertEntry]
  | cons head rest ih =>
      obtain ⟨other, held⟩ := head
      obtain ⟨below, restAscending⟩ := List.pairwise_cons.1 ascending
      unfold insertEntry
      split
      · next before =>
          refine List.pairwise_cons.2 ⟨fun entry member => ?_, ascending⟩
          rcases List.mem_cons.1 member with found | found
          · exact found ▸ before
          · exact String.lt_trans before (below entry found)
      · next notBefore =>
          split
          · next same => exact List.pairwise_cons.2 ⟨same ▸ below, restAscending⟩
          · next different =>
              refine List.pairwise_cons.2 ⟨fun entry member => ?_, ih restAscending⟩
              rcases mem_insertEntry member with found | found
              · exact found ▸ lt_of_not_lt_of_ne notBefore different
              · exact below entry found

/-- The map with a value stored under a name, in place of an earlier one. -/
def insert (map : SortedMap Value) (key : String) (value : Value) : SortedMap Value :=
  ⟨insertEntry key value map.entries, pairwise_insertEntry key value map.ascending⟩

/-- The map without a name. -/
def erase (map : SortedMap Value) (key : String) : SortedMap Value :=
  ⟨map.entries.filter (·.1 ≠ key), map.ascending.filter _⟩

/-- The map with the value under a name changed, starting from a given value where the name holds
none. -/
def update (map : SortedMap Value) (key : String) (start : Value) (change : Value → Value) :
    SortedMap Value :=
  map.insert key (change ((map.get? key).getD start))

/-- The map that holds the given entries, the last one of each name. -/
def ofList (entries : List (String × Value)) : SortedMap Value :=
  entries.foldl (fun map entry => map.insert entry.1 entry.2) empty

/-- The map with a function applied to each value. -/
def mapValues (transform : String → Value → Other) (map : SortedMap Value) : SortedMap Other :=
  ⟨map.entries.map fun entry => (entry.1, transform entry.1 entry.2),
    List.pairwise_map.2 (map.ascending.imp fun below => below)⟩

end SortedMap

end Fleet
