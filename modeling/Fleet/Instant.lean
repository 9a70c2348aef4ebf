import Fleet.Duration

/-!
# Instants

An instant is a reading of a clock that never goes back, in nanoseconds from an arbitrary start.
-/

namespace Fleet

/-- A reading of the clock. -/
structure Instant where
  nanoseconds : Nat
  deriving DecidableEq, Repr, Inhabited

namespace Instant

instance : LT Instant := ⟨fun left right => left.nanoseconds < right.nanoseconds⟩
instance : LE Instant := ⟨fun left right => left.nanoseconds ≤ right.nanoseconds⟩
instance (left right : Instant) : Decidable (left < right) :=
  inferInstanceAs (Decidable (left.nanoseconds < right.nanoseconds))
instance (left right : Instant) : Decidable (left ≤ right) :=
  inferInstanceAs (Decidable (left.nanoseconds ≤ right.nanoseconds))

/-- The instant that lies a duration after another one. -/
def after (instant : Instant) (duration : Duration) : Instant :=
  ⟨instant.nanoseconds + duration.nanoseconds⟩

/-- The time that has passed since an earlier instant; none since a later one. -/
def since (instant earlier : Instant) : Duration :=
  ⟨instant.nanoseconds - earlier.nanoseconds⟩

/-- The earlier one of two instants. -/
def earlier (first second : Instant) : Instant :=
  if second < first then second else first

/-- The later one of two instants. -/
def later (first second : Instant) : Instant :=
  if first < second then second else first

/-- The instant in whole milliseconds. -/
def wholeMilliseconds (instant : Instant) : Nat :=
  instant.nanoseconds / Duration.millisecond

end Instant

end Fleet
