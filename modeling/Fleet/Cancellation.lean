import Fleet.Instant

/-!
# Cancel signals

A cancel signal is a value that its sender writes while others wait for it to turn true. A sender
that is gone does not cancel: who waits then waits for ever. Only a pause waits for the signal, so
that it is noticed there at the earliest.
-/

namespace Fleet

/-- What a sender does to its signal. -/
inductive SignalChange where
  | write (value : Bool)
  /-- The sender goes away; nothing is written afterwards. -/
  | drop
  deriving DecidableEq, Repr

/-- A signal with all that happens to it, in the order of time. -/
structure CancelSignal where
  initial : Bool := false
  changes : List (Instant × SignalChange)
  ordered : changes.Pairwise fun first second => first.1 ≤ second.1

namespace CancelSignal

/-- The signal that turns true at an instant. -/
def raisedAt (instant : Instant) : CancelSignal where
  changes := [(instant, .write true)]
  ordered := List.pairwise_singleton _ _

/-- When it is seen that a signal is true, by someone who looks at it from an instant on, first at
that instant and then after each write. Until then the signal has a value and changes to come. -/
def awaitTrue? (now : Instant) (value : Bool) : List (Instant × SignalChange) → Option Instant
  | [] => if value then some now else none
  | (instant, change) :: changes =>
      if value ∧ now < instant then some now
      else
        match change with
        | .write next => awaitTrue? (now.later instant) next changes
        | .drop => if value then some now else none

/-- When someone who waits for the signal from an instant on is told that it is true. -/
def noticedAt? (signal : CancelSignal) (now : Instant) : Option Instant :=
  awaitTrue? now signal.initial signal.changes

/-- The end of a pause, and whether the signal cut it off. A signal that is noticed when the pause
is over counts as well. -/
def endOfPause (signal : Option CancelSignal) (duration : Duration) (now : Instant) :
    Bool × Instant :=
  let wake := now.after duration
  match signal.bind (·.noticedAt? now) with
  | none => (false, wake)
  | some noticed => if noticed ≤ wake then (true, noticed) else (false, wake)

end CancelSignal

end Fleet
