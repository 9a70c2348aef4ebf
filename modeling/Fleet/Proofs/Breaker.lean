import Fleet.Breaker
import Fleet.Proofs.SortedMap

/-!
# Breakers of a registry

Keeping, changing and removing the breaker of one dependency leaves the breakers of all others as
they are. An admitted call that succeeds closes its breaker, and a closed breaker admits every call.
-/

namespace Fleet

namespace BreakerRegistry

theorem breaker_put (registry : BreakerRegistry) (key other : String) (kept : Breaker) :
    (registry.put key kept).breaker other =
      if other = key then kept else registry.breaker other := by
  simp only [breaker, put]
  rw [SortedMap.get?_insert]
  split <;> rfl

@[simp]
theorem breaker_put_self (registry : BreakerRegistry) (key : String) (kept : Breaker) :
    (registry.put key kept).breaker key = kept := by
  rw [breaker_put, if_pos rfl]

theorem breaker_put_of_ne (registry : BreakerRegistry) {key other : String} (kept : Breaker)
    (different : other ≠ key) : (registry.put key kept).breaker other = registry.breaker other := by
  rw [breaker_put, if_neg different]

/-- A breaker that is made where there was none is the one that was meant before. -/
@[simp]
theorem breaker_ensure (registry : BreakerRegistry) (key other : String) :
    (registry.ensure key).breaker other = registry.breaker other := by
  simp only [ensure]
  rw [breaker_put]
  split
  · next same => rw [same]
  · rfl

/-- Of two breakers kept for a dependency the last one stays. -/
@[simp]
theorem put_put (registry : BreakerRegistry) (key : String) (kept next : Breaker) :
    (registry.put key kept).put key next = registry.put key next :=
  congrArg (BreakerRegistry.mk registry.settings)
    (registry.breakers.update_update key kept next (fun _ => kept) fun _ => next)

theorem breaker_modify_of_ne (registry : BreakerRegistry) {key other : String}
    (change : Breaker → Breaker) (different : other ≠ key) :
    (registry.modify key change).breaker other = registry.breaker other :=
  registry.breaker_put_of_ne _ different

theorem breaker_remove (registry : BreakerRegistry) (key other : String) :
    (registry.remove key).breaker other =
      if other = key then .fresh key registry.settings else registry.breaker other := by
  simp only [breaker, remove]
  rw [SortedMap.get?_erase]
  by_cases same : other = key
  · simp [same]
  · simp [same]

end BreakerRegistry

namespace Breaker

/-- What the operation keeps, a call of it through a breaker keeps. -/
theorem call_keeps {World Failure Value : Type} (breaker : Breaker) (clock : World → Instant)
    (operation : World → Except Failure Value × World) (Holds : World → Prop)
    (operationKeeps : ∀ world, Holds world → Holds (operation world).2) (world : World)
    (holds : Holds world) : Holds (breaker.call clock operation world).2.2 := by
  simp only [call]
  split
  · exact holds
  · exact operationKeeps world holds

theorem allow_of_closed {breaker : Breaker} (closed : breaker.state = .closed) (now : Instant) :
    breaker.allow now = (true, breaker) := by
  simp only [allow, closed]

/-- Only a question makes a breaker half open: that of the call which an open breaker admits. -/
theorem halfOpen_of_allow {breaker : Breaker} {now : Instant}
    (halfOpen : (breaker.allow now).2.state = .halfOpen) :
    breaker.state = .halfOpen ∨ breaker.state = .opened ∧ (breaker.allow now).1 = true := by
  cases state : breaker.state with
  | closed =>
      rw [allow_of_closed state, state] at halfOpen
      cases halfOpen
  | opened =>
      refine Or.inr ⟨rfl, ?_⟩
      simp only [allow, state] at halfOpen ⊢
      split at halfOpen
      · next rested => rw [if_pos rested]
      · rw [state] at halfOpen
        cases halfOpen
  | halfOpen => exact Or.inl rfl

/-- No report leaves a breaker half open. -/
theorem report_state_ne_halfOpen {Failure Value : Type} (breaker : Breaker) (now : Instant)
    (result : Except Failure Value) : (breaker.report now result).state ≠ .halfOpen := by
  cases result with
  | ok => cases state : breaker.state <;> simp [report, onSuccess, reset, state]
  | error =>
      cases state : breaker.state with
      | closed =>
          simp only [report, onFailure, state]
          split <;> simp
      | opened | halfOpen => simp [report, onFailure, state]

/-- A breaker that is not closed knows since when. -/
def IsDated (breaker : Breaker) : Prop :=
  breaker.state = .closed ∨ breaker.openedAt.isSome = true

theorem IsDated.allow {breaker : Breaker} (dated : breaker.IsDated) (now : Instant) :
    (breaker.allow now).2.IsDated := by
  simp only [Breaker.allow]
  cases state : breaker.state with
  | closed => exact Or.inl state
  | opened | halfOpen =>
      have known := dated.resolve_left (by simp [state])
      dsimp only
      split <;> exact Or.inr known

theorem IsDated.report {breaker : Breaker} (dated : breaker.IsDated) (now : Instant)
    {Failure Value : Type} (result : Except Failure Value) :
    (breaker.report now result).IsDated := by
  cases result with
  | ok =>
      simp only [Breaker.report, onSuccess]
      cases state : breaker.state with
      | closed | halfOpen => exact Or.inl rfl
      | opened => exact dated
  | error =>
      simp only [Breaker.report, onFailure]
      cases state : breaker.state with
      | closed =>
          dsimp only
          split
          · exact Or.inr rfl
          · exact Or.inl rfl
      | opened => exact dated
      | halfOpen => exact Or.inr rfl

/-- A breaker that is not closed has counted as many failures in a row as open it. -/
def HasCause (breaker : Breaker) : Prop :=
  breaker.state = .closed ∨ breaker.threshold ≤ breaker.failures

theorem HasCause.allow {breaker : Breaker} (caused : breaker.HasCause) (now : Instant) :
    (breaker.allow now).2.HasCause := by
  simp only [Breaker.allow]
  cases state : breaker.state with
  | closed => exact Or.inl state
  | opened | halfOpen =>
      have enough := caused.resolve_left (by simp [state])
      dsimp only
      split <;> exact Or.inr enough

theorem HasCause.report {breaker : Breaker} (caused : breaker.HasCause) (now : Instant)
    {Failure Value : Type} (result : Except Failure Value) :
    (breaker.report now result).HasCause := by
  cases result with
  | ok =>
      simp only [Breaker.report, onSuccess]
      cases state : breaker.state with
      | closed | halfOpen => exact Or.inl rfl
      | opened => exact caused
  | error =>
      simp only [Breaker.report, onFailure]
      cases state : breaker.state with
      | closed =>
          dsimp only
          split
          · next enough => exact Or.inr enough
          · exact Or.inl rfl
      | opened => exact caused
      | halfOpen => exact Or.inr (caused.resolve_left (by simp [state]))

theorem allow_settings (breaker : Breaker) (now : Instant) :
    (breaker.allow now).2.settings = breaker.settings := by
  simp only [allow]
  split
  · rfl
  · split <;> rfl
  · split <;> rfl

theorem report_settings (breaker : Breaker) (now : Instant) {Failure Value : Type}
    (result : Except Failure Value) :
    (breaker.report now result).settings = breaker.settings := by
  cases result with
  | ok =>
      simp only [report, onSuccess]
      split <;> rfl
  | error =>
      simp only [report, onFailure]
      split
      · split <;> rfl
      · rfl
      · rfl

/-- An open breaker admits a call when the reset timeout has passed. -/
theorem allow_of_rested {breaker : Breaker} {opened now : Instant}
    (state : breaker.state = .opened) (date : breaker.openedAt = some opened)
    (rested : opened.after breaker.settings.resetTimeout ≤ now) :
    (breaker.allow now).1 = true := by
  have enough : breaker.hasRested now = true := by
    simp only [hasRested, date, decide_eq_true_eq]
    exact Nat.le_sub_of_add_le' rested
  simp only [allow, state, enough, if_true]

/-- What a whole call makes of a breaker: it is refused, or its result is reported. -/
inductive Called (before : Breaker) : Breaker → Prop
  | refused {now : Instant} (refused : (before.allow now).1 = false) :
      Called before (before.allow now).2
  | reported {asked ended : Instant} (admitted : (before.allow asked).1 = true)
      {Failure Value : Type} (result : Except Failure Value) :
      Called before ((before.allow asked).2.report ended result)

theorem call_called {World Failure Value : Type} (breaker : Breaker) (clock : World → Instant)
    (operation : World → Except Failure Value × World) (world : World) :
    Called breaker (breaker.call clock operation world).2.1 := by
  simp only [call]
  split
  · next asked decision =>
      have after : asked = (breaker.allow (clock world)).2 := by rw [decision]
      rw [after]
      exact .refused (by rw [decision])
  · next asked decision =>
      have after : asked = (breaker.allow (clock world)).2 := by rw [decision]
      rw [after]
      exact .reported (by rw [decision]) _

/-- How a breaker stands between whole calls. -/
structure IsSettled (breaker : Breaker) : Prop where
  decided : breaker.state ≠ .halfOpen
  dated : breaker.IsDated
  caused : breaker.HasCause

theorem isSettled_fresh (name : String) (settings : BreakerSettings) :
    (fresh name settings).IsSettled :=
  ⟨BreakerState.noConfusion, Or.inl rfl, Or.inl rfl⟩

theorem Called.isSettled {before after : Breaker} (called : Called before after)
    (settled : before.IsSettled) : after.IsSettled := by
  cases called with
  | refused refused =>
      refine ⟨?_, settled.dated.allow _, settled.caused.allow _⟩
      intro halfOpen
      rcases halfOpen_of_allow halfOpen with already | ⟨-, admitted⟩
      · exact settled.decided already
      · rw [refused] at admitted
        cases admitted
  | reported _ result =>
      exact ⟨report_state_ne_halfOpen _ _ result, (settled.dated.allow _).report _ result,
        (settled.caused.allow _).report _ result⟩

/-- The breaker is open, and its reset timeout has not passed. -/
def LocksOut (breaker : Breaker) (now : Instant) : Prop :=
  breaker.state = .opened ∧ breaker.hasRested now = false

instance (breaker : Breaker) (now : Instant) : Decidable (breaker.LocksOut now) :=
  inferInstanceAs (Decidable (_ ∧ _))

theorem IsSettled.allow_iff {breaker : Breaker} (settled : breaker.IsSettled) (now : Instant) :
    (breaker.allow now).1 = true ↔ ¬breaker.LocksOut now := by
  simp only [allow, LocksOut]
  cases state : breaker.state with
  | closed => simp
  | opened => cases rested : breaker.hasRested now <;> simp
  | halfOpen => exact absurd state settled.decided

/-- Who is locked out is so by enough failures, and for the rest of the reset timeout. -/
theorem IsSettled.of_locksOut {breaker : Breaker} {now : Instant} (settled : breaker.IsSettled)
    (locked : breaker.LocksOut now) :
    breaker.threshold ≤ breaker.failures ∧ ∃ opened, breaker.openedAt = some opened ∧
      now.since opened < breaker.settings.resetTimeout := by
  rcases locked with ⟨state, tired⟩
  refine ⟨settled.caused.resolve_left (by simp [state]), ?_⟩
  rcases Option.isSome_iff_exists.mp (settled.dated.resolve_left (by simp [state])) with
    ⟨opened, date⟩
  refine ⟨opened, date, ?_⟩
  simp only [hasRested, date, decide_eq_false_iff_not] at tired
  exact Nat.lt_of_not_le tired

/-- A success of an admitted call closes the breaker. -/
theorem onSuccess_of_allowed {breaker : Breaker} {now : Instant}
    (allowed : (breaker.allow now).1 = true) :
    ((breaker.allow now).2.onSuccess).state = .closed := by
  cases state : breaker.state with
  | closed =>
      rw [allow_of_closed state]
      simp only [onSuccess, state]
  | opened =>
      simp only [allow, state] at allowed ⊢
      split at allowed
      · next rested =>
          rw [if_pos rested]
          rfl
      · cases allowed
  | halfOpen =>
      simp only [allow, state] at allowed ⊢
      split at allowed
      · next remaining =>
          rw [if_pos remaining]
          simp only [onSuccess, reset]
      · cases allowed

section Call

variable {World Failure Value : Type} (clock : World → Instant)
  {operation : World → Except Failure Value × World} {breaker : Breaker} {world : World}

/-- An admitted call is the operation, and its result is reported. -/
theorem call_eq_of_allowed (operation : World → Except Failure Value × World) (world : World)
    (allowed : (breaker.allow (clock world)).1 = true) :
    breaker.call clock operation world =
      ((operation world).1.mapError .inner,
        (breaker.allow (clock world)).2.report (clock (operation world).2) (operation world).1,
        (operation world).2) := by
  simp only [call]
  generalize breaker.allow (clock world) = decision at allowed ⊢
  rcases decision with ⟨_ | _, asked⟩
  · cases allowed
  · rfl

theorem call_of_allowed {next : World} {value : Value}
    (succeeds : operation world = (.ok value, next))
    (allowed : (breaker.allow (clock world)).1 = true) :
    ∃ after, breaker.call clock operation world = (.ok value, after, next) ∧
      after.state = .closed := by
  refine ⟨_, ?_, onSuccess_of_allowed allowed⟩
  rw [call_eq_of_allowed clock operation world allowed, succeeds]
  rfl

theorem call_of_refused (operation : World → Except Failure Value × World) (world : World)
    (refused : ¬(breaker.allow (clock world)).1 = true) :
    breaker.call clock operation world =
      (.error (.rejected (breaker.allow (clock world)).2.name),
        (breaker.allow (clock world)).2, world) := by
  simp only [call]
  generalize breaker.allow (clock world) = decision at refused ⊢
  rcases decision with ⟨_ | _, asked⟩
  · rfl
  · exact absurd rfl refused

end Call

end Breaker

end Fleet
