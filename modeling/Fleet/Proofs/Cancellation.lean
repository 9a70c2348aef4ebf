import Fleet.Cancellation
import Mathlib.Order.Basic

/-!
# When a cancel signal is noticed

A signal that never goes back to false is told by the instant at which it rises. Who waits for it is
told then, or at once if it has risen before; nobody is told of a signal that never rises, whether
its sender stays or goes.
-/

namespace Fleet

namespace Instant

variable {first second : Instant}

theorem le_iff : first ≤ second ↔ first.nanoseconds ≤ second.nanoseconds := Iff.rfl

theorem lt_iff : first < second ↔ first.nanoseconds < second.nanoseconds := Iff.rfl

theorem lt_of_le_of_ne (notAfter : first ≤ second) (different : first ≠ second) :
    first < second := by
  rw [le_iff] at notAfter
  rw [lt_iff]
  have : first.nanoseconds ≠ second.nanoseconds := fun same => different (congrArg mk same)
  omega

theorem le_of_lt (before : first < second) : first ≤ second := Nat.le_of_lt before

theorem nanoseconds_later (first second : Instant) :
    (first.later second).nanoseconds = max first.nanoseconds second.nanoseconds := by
  unfold later
  split
  · next before =>
    rw [lt_iff] at before
    omega
  · next notBefore =>
    rw [lt_iff] at notBefore
    omega

theorem later_eq_left (before : second ≤ first) : first.later second = first := by
  rw [le_iff] at before
  rw [later, if_neg]
  rw [lt_iff]
  omega

/-- An instant that is not after another one does not matter beside it. -/
theorem later_later_of_le (now : Instant) (before : first ≤ second) :
    (now.later first).later second = now.later second := by
  rw [le_iff] at before
  have same : ((now.later first).later second).nanoseconds = (now.later second).nanoseconds := by
    simp only [nanoseconds_later]
    omega
  exact congrArg Instant.mk same

end Instant

namespace CancelSignal

/-- The instant at which a signal that is false turns true for the first time. -/
def firstRise? : List (Instant × SignalChange) → Option Instant
  | [] => none
  | (instant, .write true) :: _ => some instant
  | (_, .write false) :: changes => firstRise? changes
  | (_, .drop) :: _ => none

/-- The first instant at which a signal is true, if it ever is. -/
def risesAt? (signal : CancelSignal) : Option Instant :=
  if signal.initial then some ⟨0⟩ else firstRise? signal.changes

/-- From a value on, nothing that is written takes the signal back from true to false. -/
def Latches : (value : Bool) → List (Instant × SignalChange) → Prop
  | _, [] => True
  | value, (_, .write next) :: changes => (value = true → next = true) ∧ Latches next changes
  | _, (_, .drop) :: _ => True

/-- Once the signal is true, it stays true. -/
def IsLatched (signal : CancelSignal) : Prop :=
  Latches signal.initial signal.changes

variable {changes : List (Instant × SignalChange)}

theorem awaitTrue?_of_true (latches : Latches true changes) (now : Instant) :
    awaitTrue? now true changes = some now := by
  induction changes with
  | nil => rfl
  | cons change changes ih =>
    obtain ⟨instant, change⟩ := change
    by_cases later : now < instant
    · simp [awaitTrue?, later]
    · simp only [awaitTrue?, later, and_false, if_false]
      cases change with
      | drop => rfl
      | write next =>
        obtain ⟨stays, latches⟩ := latches
        rw [stays rfl] at latches ⊢
        have past : instant ≤ now := by
          rw [Instant.lt_iff] at later
          rw [Instant.le_iff]
          omega
        simp only [Instant.later_eq_left past]
        exact ih latches

theorem awaitTrue?_of_never (never : firstRise? changes = none) (now : Instant) :
    awaitTrue? now false changes = none := by
  induction changes generalizing now with
  | nil => rfl
  | cons change changes ih =>
    obtain ⟨instant, next | _⟩ := change
    · cases next with
      | true => simp [firstRise?] at never
      | false =>
        simp only [awaitTrue?, Bool.false_eq_true, false_and, if_false]
        exact ih never _
    · simp [awaitTrue?]

theorem mem_of_firstRise? {time : Instant} (rises : firstRise? changes = some time) :
    (time, .write true) ∈ changes := by
  induction changes with
  | nil => simp [firstRise?] at rises
  | cons change changes ih =>
    obtain ⟨instant, next | _⟩ := change
    · cases next with
      | true =>
        simp only [firstRise?, Option.some.injEq] at rises
        simp [rises]
      | false => exact List.mem_cons_of_mem _ (ih rises)
    · simp [firstRise?] at rises

theorem awaitTrue?_of_rise (latches : Latches false changes)
    (ordered : changes.Pairwise fun first second => first.1 ≤ second.1) {time : Instant}
    (rises : firstRise? changes = some time) (now : Instant) :
    awaitTrue? now false changes = some (now.later time) := by
  induction changes generalizing now with
  | nil => simp [firstRise?] at rises
  | cons change changes ih =>
    obtain ⟨instant, next | _⟩ := change
    · obtain ⟨-, latches⟩ := latches
      rw [List.pairwise_cons] at ordered
      obtain ⟨first, ordered⟩ := ordered
      simp only [awaitTrue?, Bool.false_eq_true, false_and, if_false]
      cases next with
      | true =>
        simp only [firstRise?, Option.some.injEq] at rises
        rw [rises]
        exact awaitTrue?_of_true latches _
      | false =>
        simp only [firstRise?] at rises
        have before : instant ≤ time := first _ (mem_of_firstRise? rises)
        rw [ih latches ordered rises, Instant.later_later_of_le now before]
    · simp [firstRise?] at rises

/-- Who waits for a signal that stays true is told when it rises, or at once. -/
theorem noticedAt?_of_rise {signal : CancelSignal} (latched : signal.IsLatched) {time : Instant}
    (rises : signal.risesAt? = some time) (now : Instant) :
    signal.noticedAt? now = some (now.later time) := by
  unfold risesAt? at rises
  unfold IsLatched at latched
  unfold noticedAt?
  cases initially : signal.initial with
  | true =>
    rw [initially] at latched rises
    obtain rfl : ⟨0⟩ = time := by simpa using rises
    rw [awaitTrue?_of_true latched, Instant.later_eq_left]
    exact Nat.zero_le _
  | false =>
    rw [initially] at latched rises
    exact awaitTrue?_of_rise latched signal.ordered (by simpa using rises) now

/-- Nobody is told of a signal that never rises. -/
theorem noticedAt?_of_never {signal : CancelSignal} (never : signal.risesAt? = none)
    (now : Instant) : signal.noticedAt? now = none := by
  unfold risesAt? at never
  unfold noticedAt?
  cases initially : signal.initial with
  | true => simp [initially] at never
  | false => exact awaitTrue?_of_never (by simpa [initially] using never) now

section Pauses

variable {signal : Option CancelSignal} (duration : Duration) (now : Instant)

theorem endOfPause_none : endOfPause none duration now = (false, now.after duration) := rfl

/-- A signal that never rises cuts no pause off, no more than a missing one. -/
theorem endOfPause_of_never (never : signal.bind risesAt? = none) :
    endOfPause signal duration now = (false, now.after duration) := by
  cases signal with
  | none => exact endOfPause_none duration now
  | some signal => simp [endOfPause, noticedAt?_of_never never]

/-- A signal that rises cuts off the pauses that would end after that. -/
theorem endOfPause_of_rise (latched : ∀ present ∈ signal, present.IsLatched) {time : Instant}
    (rises : signal.bind risesAt? = some time) :
    endOfPause signal duration now =
      if time ≤ now.after duration then (true, now.later time)
      else (false, now.after duration) := by
  cases signal with
  | none => simp at rises
  | some signal =>
    have noticed := noticedAt?_of_rise (latched signal rfl) rises now
    have sameTime : now.later time ≤ now.after duration ↔ time ≤ now.after duration := by
      simp only [Instant.le_iff, Instant.nanoseconds_later, Instant.after]
      omega
    simp [endOfPause, noticed, sameTime]

end Pauses

end CancelSignal

end Fleet
