import Fleet.Binary64.Arithmetic
import Fleet.Text.Blank
import Fleet.Text.Cut
import Fleet.Text.Digits

/-!
# Durations

A `Duration` is a whole number of nanoseconds. The configuration writes durations as a number with
one of the units `ms`, `s`, `m` and `h`, or as a bare number of seconds.
-/

namespace Fleet

/-- A span of time in whole nanoseconds. -/
structure Duration where
  nanoseconds : Nat
  deriving DecidableEq, Repr, Inhabited

namespace Duration

instance : LT Duration := ⟨fun left right => left.nanoseconds < right.nanoseconds⟩
instance : LE Duration := ⟨fun left right => left.nanoseconds ≤ right.nanoseconds⟩
instance (left right : Duration) : Decidable (left < right) :=
  inferInstanceAs (Decidable (left.nanoseconds < right.nanoseconds))
instance (left right : Duration) : Decidable (left ≤ right) :=
  inferInstanceAs (Decidable (left.nanoseconds ≤ right.nanoseconds))

/-- The number of nanoseconds in a second. -/
def second : Nat := 1000000000

/-- The number of nanoseconds in a millisecond. -/
def millisecond : Nat := 1000000

/-- A number of whole seconds. -/
def ofSeconds (seconds : Nat) : Duration := ⟨seconds * second⟩

/-- A number of whole milliseconds. -/
def ofMilliseconds (milliseconds : Nat) : Duration := ⟨milliseconds * millisecond⟩

/-- The whole seconds of a duration. -/
def wholeSeconds (duration : Duration) : Nat := duration.nanoseconds / second

/-- The nanoseconds of a duration beyond its whole seconds. -/
def subsecond (duration : Duration) : Nat := duration.nanoseconds % second

/-- The whole milliseconds of a duration. -/
def wholeMilliseconds (duration : Duration) : Nat := duration.nanoseconds / millisecond

/-- Numbers in a duration's text are below this limit, also after scaling to seconds. -/
def limit : Nat := UInt64.size

/-- A number with blanks around it, scaled to seconds by its unit. -/
def scaledSeconds? (unit : Nat) (text : List Char) : Option Duration :=
  ((Text.readUnsigned? limit (Text.trim text)).map (· * unit)).filter (· < limit)
    |>.map ofSeconds

/-- The duration that a text denotes. The units are tried in the order `ms`, `s`, `m`, `h`; a text
without a unit is a number of seconds. -/
def parse? (text : String) : Option Duration :=
  let trimmed := Text.trim text.toList
  match Text.dropTail? ['m', 's'] trimmed with
  | some number => (Text.readUnsigned? limit (Text.trim number)).map ofMilliseconds
  | none =>
      match Text.dropTail? ['s'] trimmed with
      | some number => scaledSeconds? 1 number
      | none =>
          match Text.dropTail? ['m'] trimmed with
          | some number => scaledSeconds? 60 number
          | none =>
              match Text.dropTail? ['h'] trimmed with
              | some number => scaledSeconds? 3600 number
              | none => (Text.readUnsigned? limit trimmed).map ofSeconds

/-- The duration in seconds as a floating-point number: the whole seconds plus the rest, each
rounded. -/
def toSeconds (duration : Duration) : Binary64 :=
  Binary64.ofNat duration.wholeSeconds +
    Binary64.ofNat duration.subsecond / Binary64.ofNat second

/-- The duration nearest to a number of seconds, on a tie the one with an even number of
nanoseconds. There is none for a number that rounds below zero, for one from `2 ^ 64` seconds on,
and for what is not a number. -/
def ofSeconds? : Binary64 → Option Duration
  | .notANumber _ | .infinite _ => none
  | .finite value =>
      let nanoseconds :=
        Binary64.nearestQuotient (value.magnitude * second) Binary64.unit
      if value.negative then
        if nanoseconds = 0 then some ⟨0⟩ else none
      else if nanoseconds < limit * second then some ⟨nanoseconds⟩
      else none

/-- The duration as a person reads it: a decimal number of the largest unit that fits, among
seconds, milliseconds, microseconds and nanoseconds. -/
def describe (duration : Duration) : String :=
  let inUnit (unit places : Nat) (name : String) : String :=
    let fraction :=
      Text.dropTrailing (· == '0') (Text.paddedDigits places (duration.nanoseconds % unit))
    let whole := Nat.repr (duration.nanoseconds / unit)
    if fraction.isEmpty then whole ++ name else whole ++ "." ++ String.ofList fraction ++ name
  if second ≤ duration.nanoseconds then inUnit second 9 "s"
  else if millisecond ≤ duration.nanoseconds then inUnit millisecond 6 "ms"
  else if 1000 ≤ duration.nanoseconds then inUnit 1000 3 "µs"
  else inUnit 1 0 "ns"

end Duration

end Fleet
