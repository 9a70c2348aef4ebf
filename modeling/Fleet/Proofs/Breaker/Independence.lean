import Fleet.Proofs.Breaker

/-!
# Independent breakers

A registry serves the uses of many dependencies in one sequence. What it replies about one
dependency, and the breaker that it holds for it at the end, are those of a single breaker that sees
only the uses of this dependency, and that is replaced by a fresh one whenever the dependency is
forgotten.

Every use bears the instants at which it reads the clock. They are arbitrary: any time may pass
between two uses, of one dependency or of different ones, and while a call is being made.
-/

namespace Fleet

/-- What is done with a breaker. -/
inductive BreakerUse (Failure Value : Type) where
  | view
  | ask (now : Instant)
  | succeed
  | fail (now : Instant)
  | reset
  /-- A call of an operation that ends, where it is made, at an instant with a result. -/
  | call (asked ended : Instant) (result : Except Failure Value)

/-- What is done with a dependency of a registry: its breaker is fetched and used, or removed. -/
inductive DependencyUse (Failure Value : Type) where
  | use (use : BreakerUse Failure Value)
  | remove

/-- What a use gives back. -/
inductive BreakerReply (Failure Value : Type) where
  | done
  | viewed (view : Breaker.Snapshot)
  | asked (admitted : Bool)
  | called (result : Except (CallError Failure) Value)
  | removed (wasThere : Bool)

/-- The entries of one key, in their order. -/
def entriesOf {Entry : Type} (key : String) (entries : List (String × Entry)) : List Entry :=
  (entries.filter (·.1 = key)).map Prod.snd

section Entries

variable {Entry : Type} (entries : List (String × Entry)) (entry : Entry)

@[simp]
theorem entriesOf_cons_self (key : String) :
    entriesOf key ((key, entry) :: entries) = entry :: entriesOf key entries := by
  simp [entriesOf]

theorem entriesOf_cons_of_ne {key other : String} (different : key ≠ other) :
    entriesOf key ((other, entry) :: entries) = entriesOf key entries := by
  simp [entriesOf, Ne.symm different]

end Entries

variable {Failure Value : Type}

namespace Breaker

/-- The reply of a breaker to a use, and the breaker afterwards. -/
def serve (breaker : Breaker) :
    BreakerUse Failure Value → BreakerReply Failure Value × Breaker
  | .view => (.viewed breaker.snapshot, breaker)
  | .ask now =>
      let (admitted, breaker) := breaker.allow now
      (.asked admitted, breaker)
  | .succeed => (.done, breaker.onSuccess)
  | .fail now => (.done, breaker.onFailure now)
  | .reset => (.done, breaker.reset)
  | .call asked ended result =>
      let (result, breaker, _) := breaker.call id (fun _ => (result, ended)) asked
      (.called result, breaker)

theorem allow_name (breaker : Breaker) (now : Instant) :
    (breaker.allow now).2.name = breaker.name := by
  simp only [allow]
  split
  · rfl
  · split <;> rfl
  · split <;> rfl

theorem onSuccess_name (breaker : Breaker) : breaker.onSuccess.name = breaker.name := by
  simp only [onSuccess]
  split <;> rfl

theorem onFailure_name (breaker : Breaker) (now : Instant) :
    (breaker.onFailure now).name = breaker.name := by
  simp only [onFailure]
  split
  · split <;> rfl
  · rfl
  · rfl

theorem report_name (breaker : Breaker) (now : Instant) (result : Except Failure Value) :
    (breaker.report now result).name = breaker.name := by
  cases result with
  | ok => exact breaker.onSuccess_name
  | error => exact breaker.onFailure_name now

/-- A breaker keeps its name, whatever is done with it. -/
theorem serve_name (breaker : Breaker) (use : BreakerUse Failure Value) :
    (breaker.serve use).2.name = breaker.name := by
  cases use with
  | view => rfl
  | ask now => exact breaker.allow_name now
  | succeed => exact breaker.onSuccess_name
  | fail now => exact breaker.onFailure_name now
  | reset => rfl
  | call asked ended result =>
      by_cases admitted : (breaker.allow asked).1 = true
      · simp only [serve, call_eq_of_allowed id (fun _ => (result, ended)) asked admitted]
        rw [report_name, id_eq, allow_name]
      · simp only [serve, call_of_refused id (fun _ => (result, ended)) asked admitted]
        exact breaker.allow_name asked

end Breaker

namespace BreakerRegistry

/-- The reply of a registry to a use of a dependency, and the registry afterwards. A breaker is
made where there is none yet. -/
def serve (registry : BreakerRegistry) (key : String) :
    DependencyUse Failure Value → BreakerReply Failure Value × BreakerRegistry
  | .use use =>
      let created := registry.ensure key
      let (reply, breaker) := (created.breaker key).serve use
      (reply, created.put key breaker)
  | .remove => (.removed (registry.breakers.contains key), registry.remove key)

/-- The replies of a registry to several uses, under their keys, and the registry afterwards. -/
def serveAll (registry : BreakerRegistry) :
    List (String × DependencyUse Failure Value) →
      List (String × BreakerReply Failure Value) × BreakerRegistry
  | [] => ([], registry)
  | (key, use) :: rest =>
      let (reply, next) := registry.serve key use
      let (replies, last) := next.serveAll rest
      ((key, reply) :: replies, last)

end BreakerRegistry

/-- A single breaker, and whether it has been used since it was made. -/
structure SoleBreaker where
  name : String
  settings : BreakerSettings
  breaker : Breaker := .fresh name settings
  isUsed : Bool := false

namespace SoleBreaker

/-- The reply to a use, and the single breaker afterwards: a fresh one after a removal. -/
def serve (sole : SoleBreaker) :
    DependencyUse Failure Value → BreakerReply Failure Value × SoleBreaker
  | .use use =>
      let (reply, breaker) := sole.breaker.serve use
      (reply, { sole with breaker, isUsed := true })
  | .remove => (.removed sole.isUsed, { name := sole.name, settings := sole.settings })

/-- The replies to several uses, and the single breaker afterwards. -/
def serveAll (sole : SoleBreaker) :
    List (DependencyUse Failure Value) → List (BreakerReply Failure Value) × SoleBreaker
  | [] => ([], sole)
  | use :: rest =>
      let (reply, next) := sole.serve use
      let (replies, last) := next.serveAll rest
      (reply :: replies, last)

theorem serve_name (sole : SoleBreaker) (use : DependencyUse Failure Value) :
    (sole.serve use).2.name = sole.name := by
  cases use <;> rfl

theorem serveAll_name (sole : SoleBreaker) (uses : List (DependencyUse Failure Value)) :
    (sole.serveAll uses).2.name = sole.name := by
  induction uses generalizing sole with
  | nil => rfl
  | cons use rest ih => exact (ih (sole.serve use).2).trans (sole.serve_name use)

end SoleBreaker

namespace BreakerRegistry

/-! ## One dependency among others -/

/-- The registry holds the single breaker under its name once it is used, and none before. -/
structure Mirrors (registry : BreakerRegistry) (sole : SoleBreaker) : Prop where
  settings : registry.settings = sole.settings
  held : registry.breakers.get? sole.name = if sole.isUsed then some sole.breaker else none
  unused : sole.isUsed = false → sole.breaker = .fresh sole.name sole.settings

section Mirrors

variable {registry : BreakerRegistry} {sole : SoleBreaker}

theorem Mirrors.breaker_eq (mirrors : registry.Mirrors sole) :
    registry.breaker sole.name = sole.breaker := by
  rw [breaker, mirrors.held]
  cases used : sole.isUsed with
  | true => rfl
  | false => simp [mirrors.unused used, mirrors.settings]

theorem Mirrors.contains_eq (mirrors : registry.Mirrors sole) :
    registry.breakers.contains sole.name = sole.isUsed := by
  rw [SortedMap.contains, mirrors.held]
  cases sole.isUsed <;> rfl

/-- The registry replies to a use of the dependency what the single breaker replies. -/
theorem Mirrors.serve_self (mirrors : registry.Mirrors sole)
    (use : DependencyUse Failure Value) :
    (registry.serve sole.name use).1 = (sole.serve use).1 ∧
      (registry.serve sole.name use).2.Mirrors (sole.serve use).2 := by
  cases use with
  | use use =>
      have fetched : (registry.ensure sole.name).breaker sole.name = sole.breaker := by
        rw [breaker_ensure, mirrors.breaker_eq]
      refine ⟨?_, mirrors.settings, ?_, Bool.noConfusion⟩
      · simp only [serve, SoleBreaker.serve, fetched]
      · simp only [serve, SoleBreaker.serve, fetched, put]
        exact (SortedMap.get?_insert ..).trans (if_pos rfl)
  | remove =>
      refine ⟨congrArg BreakerReply.removed mirrors.contains_eq, mirrors.settings, ?_,
        fun _ => rfl⟩
      exact (SortedMap.get?_erase ..).trans (if_pos rfl)

/-- The use of another dependency leaves what the registry holds for this one. -/
theorem Mirrors.serve_of_ne (mirrors : registry.Mirrors sole) {other : String}
    (different : sole.name ≠ other) (use : DependencyUse Failure Value) :
    (registry.serve other use).2.Mirrors sole := by
  refine ⟨?_, ?_, mirrors.unused⟩
  · cases use <;> exact mirrors.settings
  · rw [← mirrors.held]
    cases use with
    | use use =>
        simp only [serve, ensure, put]
        rw [SortedMap.get?_insert, if_neg different, SortedMap.get?_insert, if_neg different]
    | remove =>
        simp only [serve, remove]
        rw [SortedMap.get?_erase, if_neg different]

/-- By induction over the uses: those of the dependency are served alike on both sides, and those of
the others pass by the single breaker. -/
theorem Mirrors.serveAll (mirrors : registry.Mirrors sole)
    (uses : List (String × DependencyUse Failure Value)) :
    entriesOf sole.name (registry.serveAll uses).1 =
        (sole.serveAll (entriesOf sole.name uses)).1 ∧
      (registry.serveAll uses).2.Mirrors (sole.serveAll (entriesOf sole.name uses)).2 := by
  induction uses generalizing registry sole with
  | nil => exact ⟨rfl, mirrors⟩
  | cons entry rest ih =>
      rcases entry with ⟨key, use⟩
      by_cases same : sole.name = key
      · subst same
        rcases mirrors.serve_self use with ⟨reply, next⟩
        rcases ih next with ⟨replies, last⟩
        rw [sole.serve_name use] at replies last
        rw [entriesOf_cons_self]
        refine ⟨?_, last⟩
        simp only [BreakerRegistry.serveAll, SoleBreaker.serveAll]
        rw [entriesOf_cons_self, reply, replies]
      · rcases ih (mirrors.serve_of_ne same use) with ⟨replies, last⟩
        rw [entriesOf_cons_of_ne _ _ same]
        refine ⟨?_, last⟩
        simp only [BreakerRegistry.serveAll]
        rw [entriesOf_cons_of_ne _ _ same, replies]

end Mirrors

/-! ## Published views -/

/-- Every breaker bears the name of its dependency. -/
def IsNamed (registry : BreakerRegistry) : Prop :=
  ∀ key breaker, registry.breakers.get? key = some breaker → breaker.name = key

section Named

variable {registry : BreakerRegistry}

theorem IsNamed.name_breaker (named : registry.IsNamed) (key : String) :
    (registry.breaker key).name = key := by
  rw [breaker]
  cases held : registry.breakers.get? key with
  | none => rfl
  | some breaker => exact named key breaker held

theorem IsNamed.put (named : registry.IsNamed) {key : String} {kept : Breaker}
    (name : kept.name = key) : (registry.put key kept).IsNamed := by
  intro other breaker held
  simp only [BreakerRegistry.put] at held
  rw [SortedMap.get?_insert] at held
  split at held
  · next same =>
      cases held
      rw [name, same]
  · exact named other breaker held

theorem IsNamed.serve (named : registry.IsNamed) (key : String)
    (use : DependencyUse Failure Value) : (registry.serve key use).2.IsNamed := by
  cases use with
  | use use =>
      have created : (registry.ensure key).IsNamed := named.put (named.name_breaker key)
      exact created.put ((Breaker.serve_name _ use).trans (created.name_breaker key))
  | remove =>
      intro other breaker held
      simp only [BreakerRegistry.serve, remove] at held
      rw [SortedMap.get?_erase] at held
      split at held
      · cases held
      · exact named other breaker held

theorem IsNamed.serveAll (named : registry.IsNamed)
    (uses : List (String × DependencyUse Failure Value)) :
    (registry.serveAll uses).2.IsNamed := by
  induction uses generalizing registry with
  | nil => exact named
  | cons entry rest ih => exact ih (named.serve entry.1 entry.2)

theorem IsNamed.name_of_mem (named : registry.IsNamed) {entry : String × Breaker}
    (member : entry ∈ registry.breakers.entries) : entry.2.name = entry.1 :=
  named entry.1 entry.2 (SortedMap.mem_entries_iff.mp member)

/-- The views are published under the names of the dependencies, in their order. -/
theorem IsNamed.names_eq (named : registry.IsNamed) :
    registry.snapshots.map Breaker.Snapshot.name = registry.breakers.keys := by
  simp only [snapshots, SortedMap.values, SortedMap.keys, List.map_map]
  apply List.map_congr_left
  intro entry member
  exact named.name_of_mem member

/-- The views under the name of a dependency are those of the breaker that is held for it. -/
theorem IsNamed.filter_snapshots (named : registry.IsNamed) (key : String) :
    registry.snapshots.filter (·.name = key) =
      ((registry.breakers.get? key).map Breaker.snapshot).toList := by
  have entries : registry.breakers.entries.filter (·.2.name = key) =
      registry.breakers.entries.filter (·.1 = key) := by
    apply List.filter_congr
    intro entry member
    rw [named.name_of_mem member]
  simp only [snapshots, SortedMap.values, List.filter_map]
  change ((registry.breakers.entries.filter (·.2.name = key)).map Prod.snd).map Breaker.snapshot = _
  rw [entries, SortedMap.filter_entries]
  cases registry.breakers.get? key <;> rfl

end Named

/-- The dependency was used, and has not been removed since. -/
def IsLive (key : String) (uses : List (String × DependencyUse Failure Value)) : Prop :=
  ∃ earlier use later, uses = earlier ++ (key, .use use) :: later ∧ (key, .remove) ∉ later

theorem isLive_cons {key : String} {entry : String × DependencyUse Failure Value}
    {rest : List (String × DependencyUse Failure Value)} :
    IsLive key (entry :: rest) ↔
      IsLive key rest ∨ (∃ use, entry = (key, .use use)) ∧ (key, .remove) ∉ rest := by
  constructor
  · rintro ⟨_ | ⟨first, earlier⟩, use, later, split, kept⟩
    · cases split
      exact Or.inr ⟨⟨use, rfl⟩, kept⟩
    · cases split
      exact Or.inl ⟨earlier, use, later, rfl, kept⟩
  · rintro (⟨earlier, use, later, rfl, kept⟩ | ⟨⟨use, rfl⟩, kept⟩)
    · exact ⟨entry :: earlier, use, later, rfl, kept⟩
    · exact ⟨[], use, rest, rfl, kept⟩

theorem mem_keys_serve_use {registry : BreakerRegistry} {key other : String}
    {use : BreakerUse Failure Value} :
    other ∈ (registry.serve key (.use use)).2.breakers.keys ↔
      other = key ∨ other ∈ registry.breakers.keys := by
  simp only [serve, ensure, put]
  rw [SortedMap.mem_keys_insert, SortedMap.mem_keys_insert, ← or_assoc, or_self]

theorem mem_keys_serve_remove {registry : BreakerRegistry} {key other : String} :
    other ∈ (registry.serve key (.remove : DependencyUse Failure Value)).2.breakers.keys ↔
      other ≠ key ∧ other ∈ registry.breakers.keys :=
  SortedMap.mem_keys_erase

theorem serveAll_cons (registry : BreakerRegistry) (key : String)
    (use : DependencyUse Failure Value) (rest : List (String × DependencyUse Failure Value)) :
    (registry.serveAll ((key, use) :: rest)).2 = ((registry.serve key use).2.serveAll rest).2 :=
  rfl

/-- A registry holds the dependencies that are live, and those from before that have not been
removed. -/
theorem mem_keys_serveAll {registry : BreakerRegistry} {key : String}
    {uses : List (String × DependencyUse Failure Value)} :
    key ∈ (registry.serveAll uses).2.breakers.keys ↔
      IsLive key uses ∨ key ∈ registry.breakers.keys ∧ (key, .remove) ∉ uses := by
  induction uses generalizing registry with
  | nil =>
      have dead : ¬IsLive key ([] : List (String × DependencyUse Failure Value)) := by
        rintro ⟨earlier, use, later, split, -⟩
        simp at split
      simp [serveAll, dead]
  | cons entry rest ih =>
      rcases entry with ⟨other, use | -⟩
      · rw [serveAll_cons, ih, mem_keys_serve_use, isLive_cons]
        simp only [Prod.mk.injEq, DependencyUse.use.injEq, List.mem_cons, reduceCtorEq, and_false,
          false_or]
        grind
      · rw [serveAll_cons, ih, mem_keys_serve_remove, isLive_cons]
        simp only [Prod.mk.injEq, reduceCtorEq, and_false, exists_false, false_and, or_false,
          List.mem_cons, and_true, not_or]
        tauto

/-- The breakers of a registry are independent. However the uses of several dependencies mix, the
replies about one of them are those of a single breaker which only sees its uses, and this is the
breaker that the registry holds and publishes for it in the end. The views are published in the
order of the names, one of each dependency that was used and has not been removed since. -/
theorem independent (settings : BreakerSettings)
    (uses : List (String × DependencyUse Failure Value)) (key : String) :
    let served := ({ settings } : BreakerRegistry).serveAll uses
    let alone := ({ name := key, settings } : SoleBreaker).serveAll (entriesOf key uses)
    entriesOf key served.1 = alone.1 ∧
      served.2.breaker key = alone.2.breaker ∧
      served.2.snapshots.filter (·.name = key) =
        (if alone.2.isUsed then [alone.2.breaker.snapshot] else []) ∧
      (served.2.snapshots.map Breaker.Snapshot.name).Pairwise (· < ·) ∧
      (key ∈ served.2.snapshots.map Breaker.Snapshot.name ↔ IsLive key uses) := by
  intro served alone
  have begins : ({ settings } : BreakerRegistry).Mirrors { name := key, settings } :=
    ⟨rfl, rfl, fun _ => rfl⟩
  rcases begins.serveAll uses with ⟨replies, mirrors⟩
  have name : alone.2.name = key := SoleBreaker.serveAll_name ..
  have named : served.2.IsNamed := by
    apply IsNamed.serveAll
    intro other breaker held
    cases held
  refine ⟨replies, ?_, ?_, ?_, ?_⟩
  · rw [← mirrors.breaker_eq, name]
  · have held := mirrors.held
    rw [name] at held
    rw [named.filter_snapshots, held]
    split <;> rfl
  · rw [named.names_eq]
    exact List.pairwise_map.mpr served.2.breakers.ascending
  · rw [named.names_eq, mem_keys_serveAll]
    simp

end BreakerRegistry

end Fleet
