import Fleet.Cancellation
import Fleet.Retry

/-!
# Rehearsing retries

A scripted operation gives the outcomes of its script one after the other and keeps giving the last
one. It takes no time, and pauses take no real time: they move the clock of the rehearsal.
-/

namespace Fleet.Rehearsal

/-- The world of a scripted operation. -/
structure Attempts (Outcome : Type) where
  script : List Outcome
  calls : Nat := 0
  /-- When the calls were made, the last one first. -/
  starts : List Instant := []
  /-- The pauses so far, the last one first. -/
  pauses : List Duration := []
  now : Instant := ⟨0⟩
  /-- When the cancel signal turns true, if there is one that does. -/
  cancelAt : Option Instant := none
  /-- The cancel signal, if there is one. -/
  signal : Option CancelSignal := cancelAt.map .raisedAt

namespace Attempts

variable {Outcome : Type}

/-- The next outcome of the script; the last one repeats. -/
def perform (default : Outcome) (world : Attempts Outcome) : Outcome × Attempts Outcome :=
  (world.script[min world.calls (world.script.length - 1)]?.getD default,
    { world with calls := world.calls + 1, starts := world.now :: world.starts })

/-- A pause, and whether the cancel signal cut it off. -/
def pause (duration : Duration) (world : Attempts Outcome) : Bool × Attempts Outcome :=
  let ended := CancelSignal.endOfPause world.signal duration world.now
  (ended.1, { world with pauses := duration :: world.pauses, now := ended.2 })

end Attempts

end Fleet.Rehearsal
