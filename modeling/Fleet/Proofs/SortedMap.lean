import Fleet.SortedMap
import Mathlib.Data.Multiset.AddSub

/-!
# Keys of sorted maps

What storing and erasing do to the names of a map and to the value under each name. The names of
a map are distinct, so that a map can be counted by its names.
-/

namespace Fleet.SortedMap

variable {Value Other : Type}

theorem nodup_keys (map : SortedMap Value) : map.keys.Nodup := by
  apply List.pairwise_map.mpr
  apply map.ascending.imp
  intro first second below same
  exact String.lt_irrefl second.1 (same ▸ below)

@[simp]
theorem keys_empty : (∅ : SortedMap Value).keys = [] := rfl

theorem length_keys (map : SortedMap Value) : map.keys.length = map.entries.length :=
  List.length_map _

theorem lookup_cons_eq (key name : String) (held : Value) (rest : List (String × Value)) :
    ((name, held) :: rest).lookup key = if key = name then some held else rest.lookup key := by
  rw [List.lookup_cons]
  by_cases same : key = name
  · simp [same]
  · simp [beq_eq_false_iff_ne.mpr same, same]

theorem contains_iff_mem_keys {map : SortedMap Value} {key : String} :
    map.contains key = true ↔ key ∈ map.keys := by
  simp only [contains, get?, keys]
  induction map.entries with
  | nil => simp
  | cons entry rest ih =>
      rw [lookup_cons_eq, List.map_cons, List.mem_cons]
      by_cases same : key = entry.1
      · simp [same]
      · simp [same, ih]

theorem contains_eq_false_iff {map : SortedMap Value} {key : String} :
    map.contains key = false ↔ key ∉ map.keys := by
  rw [← contains_iff_mem_keys, Bool.not_eq_true]

/-- Storing a value changes what is held under its name and under no other one. -/
theorem get?_insert (map : SortedMap Value) (key other : String) (value : Value) :
    (map.insert key value).get? other = if other = key then some value else map.get? other := by
  simp only [get?, insert]
  induction map.entries with
  | nil => rw [insertEntry, lookup_cons_eq]
  | cons entry rest ih =>
      simp only [insertEntry]
      split
      · rw [lookup_cons_eq]
      · split
        · next here =>
            subst here
            rw [lookup_cons_eq, lookup_cons_eq]
            split <;> rfl
        · next elsewhere =>
            rw [lookup_cons_eq, lookup_cons_eq, ih]
            by_cases found : other = entry.1
            · simp [found, Ne.symm elsewhere]
            · simp [found]

theorem contains_insert (map : SortedMap Value) (key other : String) (value : Value) :
    (map.insert key value).contains other = (decide (other = key) || map.contains other) := by
  by_cases same : other = key <;> simp [contains, get?_insert, same]

theorem entries_insert_perm {map : SortedMap Value} {key : String}
    (absent : map.contains key = false) (value : Value) :
    (map.insert key value).entries.Perm ((key, value) :: map.entries) := by
  have fresh : key ∉ map.entries.map Prod.fst := contains_eq_false_iff.mp absent
  simp only [insert]
  generalize map.entries = entries at fresh ⊢
  induction entries with
  | nil => simp [insertEntry]
  | cons entry rest ih =>
      simp only [List.map_cons, List.mem_cons, not_or] at fresh
      simp only [insertEntry]
      split
      · simp
      · rw [if_neg fresh.1]
        exact ((ih fresh.2).cons entry).trans (List.Perm.swap (key, value) entry _)

theorem keys_insert_perm {map : SortedMap Value} {key : String}
    (absent : map.contains key = false) (value : Value) :
    (map.insert key value).keys.Perm (key :: map.keys) :=
  (entries_insert_perm absent value).map Prod.fst

theorem values_insert_perm {map : SortedMap Value} {key : String}
    (absent : map.contains key = false) (value : Value) :
    (map.insert key value).values.Perm (value :: map.values) :=
  (entries_insert_perm absent value).map Prod.snd

theorem values_erase_sublist (map : SortedMap Value) (key : String) :
    (map.erase key).values.Sublist map.values :=
  List.filter_sublist.map Prod.snd

theorem keys_insert_of_contains {map : SortedMap Value} {key : String}
    (present : map.contains key = true) (value : Value) :
    (map.insert key value).keys = map.keys := by
  have found : key ∈ map.entries.map Prod.fst := contains_iff_mem_keys.mp present
  have ascending := map.ascending
  simp only [keys, insert]
  generalize map.entries = entries at found ascending ⊢
  induction entries with
  | nil => cases found
  | cons entry rest ih =>
      rcases List.pairwise_cons.mp ascending with ⟨below, restAscending⟩
      simp only [insertEntry]
      split
      · next before =>
          rcases List.mem_cons.mp found with here | there
          · exact absurd before (here ▸ String.lt_irrefl _)
          · rcases List.mem_map.mp there with ⟨other, member, rfl⟩
            exact absurd (String.lt_trans before (below other member)) (String.lt_irrefl _)
      · split
        · next here => rw [List.map_cons, List.map_cons, ← here]
        · next elsewhere =>
            have there := (List.mem_cons.mp found).resolve_left elsewhere
            rw [List.map_cons, List.map_cons, ih there restAscending]

/-- Storing a value under a new name counts that name once more. -/
theorem coe_keys_insert {map : SortedMap Value} {key : String}
    (absent : map.contains key = false) (value : Value) :
    ((map.insert key value).keys : Multiset String) = key ::ₘ map.keys :=
  Multiset.coe_eq_coe.mpr (keys_insert_perm absent value)

theorem keys_erase (map : SortedMap Value) (key : String) :
    (map.erase key).keys = map.keys.erase key := by
  rw [map.nodup_keys.erase_eq_filter]
  simp only [keys, erase, List.filter_map]
  congr 1
  apply List.filter_congr
  intro entry _
  by_cases same : entry.1 = key <;> simp [same]

theorem length_insert {map : SortedMap Value} {key : String}
    (absent : map.contains key = false) (value : Value) :
    (map.insert key value).entries.length = map.entries.length + 1 := by
  rw [← length_keys, ← length_keys]
  exact (keys_insert_perm absent value).length_eq

theorem length_erase {map : SortedMap Value} {key : String} (present : key ∈ map.keys) :
    (map.erase key).entries.length + 1 = map.entries.length := by
  have positive := List.length_pos_of_mem present
  rw [← length_keys, ← length_keys, keys_erase, List.length_erase_of_mem present]
  omega

/-- Erasing a name that is there counts it once less. -/
theorem cons_coe_keys_erase {map : SortedMap Value} {key : String}
    (present : key ∈ map.keys) : key ::ₘ ((map.erase key).keys : Multiset String) = map.keys := by
  rw [keys_erase]
  exact Multiset.coe_eq_coe.mpr (List.perm_cons_erase present).symm

theorem get?_erase (map : SortedMap Value) (key other : String) :
    (map.erase key).get? other = if other = key then none else map.get? other := by
  simp only [get?, erase]
  induction map.entries with
  | nil => simp
  | cons entry rest ih =>
      rw [lookup_cons_eq]
      by_cases dropped : entry.1 = key
      · rw [List.filter_cons_of_neg (by simpa using dropped), ih, dropped]
        split <;> rfl
      · rw [List.filter_cons_of_pos (by simpa using dropped), lookup_cons_eq, ih]
        by_cases found : other = entry.1
        · simp [found, dropped]
        · simp [found]

theorem mem_keys_insert {map : SortedMap Value} {key other : String} {value : Value} :
    other ∈ (map.insert key value).keys ↔ other = key ∨ other ∈ map.keys := by
  rw [← contains_iff_mem_keys, contains_insert, Bool.or_eq_true, decide_eq_true_eq,
    contains_iff_mem_keys]

theorem mem_keys_ofList {entries : List (String × Value)} {key : String} :
    key ∈ (ofList entries).keys ↔ key ∈ entries.map Prod.fst := by
  have stored (map : SortedMap Value) :
      key ∈ (entries.foldl (fun map entry => map.insert entry.1 entry.2) map).keys ↔
        key ∈ entries.map Prod.fst ∨ key ∈ map.keys := by
    induction entries generalizing map with
    | nil => simp
    | cons entry rest ih =>
        rw [List.foldl_cons, ih, mem_keys_insert, List.map_cons, List.mem_cons]
        tauto
  simpa [ofList, empty, keys] using stored empty

theorem mem_keys_erase {map : SortedMap Value} {key other : String} :
    other ∈ (map.erase key).keys ↔ other ≠ key ∧ other ∈ map.keys := by
  rw [keys_erase, map.nodup_keys.mem_erase_iff]

/-! ## Equal maps -/

theorem mem_entries_iff {map : SortedMap Value} {key : String} {value : Value} :
    (key, value) ∈ map.entries ↔ map.get? key = some value := by
  rw [get?, List.lookup_eq_some_iff]
  constructor
  · intro member
    rcases List.append_of_mem member with ⟨before, after, split⟩
    refine ⟨before, after, split, fun entry earlier => ?_⟩
    have below := (List.pairwise_append.mp (split ▸ map.ascending)).2.2 entry earlier (key, value)
      List.mem_cons_self
    rw [bne_iff_ne]
    rintro rfl
    exact String.lt_irrefl _ below
  · rintro ⟨before, after, split, -⟩
    rw [split]
    exact List.mem_append_right _ List.mem_cons_self

/-- At most one entry has a given name. -/
theorem filter_entries (map : SortedMap Value) (key : String) :
    map.entries.filter (·.1 = key) = (map.get? key).toList.map (key, ·) := by
  have distinct := map.nodup_keys
  simp only [keys, get?] at distinct ⊢
  generalize map.entries = entries at distinct ⊢
  induction entries with
  | nil => rfl
  | cons entry rest ih =>
      rw [List.map_cons, List.nodup_cons] at distinct
      rw [lookup_cons_eq]
      by_cases here : key = entry.1
      · subst here
        have others : rest.filter (·.1 = entry.1) = [] := by
          apply List.filter_eq_nil_iff.mpr
          intro other member
          rw [decide_eq_true_eq]
          intro same
          exact distinct.1 (same ▸ List.mem_map_of_mem member)
        rw [List.filter_cons_of_pos (by simp), others, if_pos rfl]
        rfl
      · rw [List.filter_cons_of_neg (by simpa using Ne.symm here), ih distinct.2, if_neg here]

/-- Maps that hold the same values under the same names are equal. -/
theorem eq_of_get? {first second : SortedMap Value}
    (same : ∀ key, first.get? key = second.get? key) : first = second := by
  have perm : first.entries.Perm second.entries := by
    refine (List.perm_ext_iff_of_nodup first.nodup_keys.of_map second.nodup_keys.of_map).mpr ?_
    rintro ⟨key, value⟩
    rw [mem_entries_iff, mem_entries_iff, same]
  have entries := perm.eq_of_pairwise
    (fun _ _ _ _ below above => absurd (String.lt_trans below above) (String.lt_irrefl _))
    first.ascending second.ascending
  cases first
  cases second
  cases entries
  rfl

/-- Storing a value where it is held already changes nothing. -/
theorem insert_of_get? {map : SortedMap Value} {key : String} {value : Value}
    (held : map.get? key = some value) : map.insert key value = map := by
  apply eq_of_get?
  intro name
  rw [get?_insert]
  split
  · next same => rw [same, held]
  · rfl

/-! ## Changed values -/

theorem get?_update (map : SortedMap Value) (key other : String) (start : Value)
    (change : Value → Value) :
    (map.update key start change).get? other =
      if other = key then some (change ((map.get? key).getD start)) else map.get? other :=
  map.get?_insert key other _

theorem get?_update_self (map : SortedMap Value) (key : String) (start : Value)
    (change : Value → Value) :
    (map.update key start change).get? key = some (change ((map.get? key).getD start)) := by
  rw [get?_update, if_pos rfl]

theorem get?_update_of_ne (map : SortedMap Value) {key other : String} (start : Value)
    (change : Value → Value) (different : other ≠ key) :
    (map.update key start change).get? other = map.get? other := by
  rw [get?_update, if_neg different]

/-- After several changes, the value under a name is what those under this name make of it. -/
theorem getD_get?_foldl_update {Change : Type} (start : Value) (apply : Change → Value → Value)
    (changes : List (String × Change)) (map : SortedMap Value) (key : String) :
    ((changes.foldl (fun map change => map.update change.1 start (apply change.2)) map).get?
        key).getD start =
      (changes.filter (·.1 = key)).foldl (fun value change => apply change.2 value)
        ((map.get? key).getD start) := by
  induction changes generalizing map with
  | nil => rfl
  | cons change rest ih =>
      rw [List.foldl_cons, ih, get?_update]
      by_cases here : key = change.1
      · rw [if_pos here, List.filter_cons_of_pos (by simp [here]), List.foldl_cons, here]
        rfl
      · rw [if_neg here, List.filter_cons_of_neg (by simpa using Ne.symm here)]

/-- Two changes under one name are one change. -/
theorem update_update (map : SortedMap Value) (key : String) (start other : Value)
    (change next : Value → Value) :
    (map.update key start change).update key other next =
      map.update key start (next ∘ change) := by
  apply eq_of_get?
  intro name
  by_cases here : name = key
  · rw [here, get?_update_self, get?_update_self, get?_update_self]
    rfl
  · rw [get?_update_of_ne _ _ _ here, get?_update_of_ne _ _ _ here, get?_update_of_ne _ _ _ here]

/-- Changes under different names may come in either order. -/
theorem update_comm (map : SortedMap Value) {key other : String} (different : key ≠ other)
    (start begin : Value) (change next : Value → Value) :
    (map.update key start change).update other begin next =
      (map.update other begin next).update key start change := by
  apply eq_of_get?
  intro name
  simp only [get?_update]
  by_cases here : name = key
  · subst here
    simp [different]
  · by_cases there : name = other
    · subst there
      simp [Ne.symm different]
    · simp [here, there]

/-- Changes that may be made in either order may be so under all names. -/
theorem update_comm_of_commute (map : SortedMap Value) (key other : String) (start : Value)
    {change next : Value → Value} (commute : ∀ value, next (change value) = change (next value)) :
    (map.update key start change).update other start next =
      (map.update other start next).update key start change := by
  by_cases same : key = other
  · subst same
    rw [update_update, update_update]
    exact congrArg (map.update key start) (funext commute)
  · exact map.update_comm same start start change next

theorem get?_mapValues (map : SortedMap Value) (transform : String → Value → Other)
    (key : String) : (map.mapValues transform).get? key = (map.get? key).map (transform key) := by
  simp only [get?, mapValues]
  induction map.entries with
  | nil => rfl
  | cons entry rest ih =>
      rw [List.map_cons, lookup_cons_eq, lookup_cons_eq, ih]
      by_cases here : key = entry.1
      · simp [here]
      · simp [here]

/-- A change of a value is a change of what is read off it. -/
theorem mapValues_update (map : SortedMap Value) (transform : String → Value → Other)
    (key : String) (start : Value) {change : Value → Value} {next : Other → Other}
    (follows : ∀ value, transform key (change value) = next (transform key value)) :
    (map.update key start change).mapValues transform =
      (map.mapValues transform).update key (transform key start) next := by
  apply eq_of_get?
  intro name
  by_cases here : name = key
  · rw [here, get?_update_self, get?_mapValues, get?_update_self, get?_mapValues,
      Option.map_some, follows, Option.getD_map]
  · rw [get?_update_of_ne _ _ _ here, get?_mapValues, get?_mapValues,
      get?_update_of_ne _ _ _ here]

end Fleet.SortedMap
