import Fleet.Instant
import Fleet.SortedMap

/-!
# Circuit breakers

A breaker guards a dependency that may fail. A number of failures in a row opens it, and an open
breaker refuses calls. When the reset timeout has passed it is half open: it admits a few probes,
and the first result decides whether it closes or opens again.
-/

namespace Fleet

/-- Whether calls pass, are refused, or are probed. -/
inductive BreakerState where
  | closed
  | opened
  | halfOpen
  deriving DecidableEq, Repr

namespace BreakerState

/-- The name of a state in status documents. -/
def name : BreakerState → String
  | closed => "closed"
  | opened => "open"
  | halfOpen => "half_open"

end BreakerState

/-- When a breaker opens, when it probes, and how many probes it admits. -/
structure BreakerSettings where
  failureThreshold : Nat := 5
  resetTimeout : Duration := .ofSeconds 30
  halfOpenProbes : Nat := 1
  deriving DecidableEq

/-- Why a guarded call gave no value. -/
inductive CallError (Failure : Type) where
  /-- The named breaker refused the call. -/
  | rejected (name : String)
  /-- The call was made and failed. -/
  | inner (failure : Failure)
  deriving DecidableEq

/-- The text for the refusal of a call by a breaker. -/
def refusalMessage (name : String) : String :=
  "circuit breaker '" ++ name ++ "' is open"

namespace CallError

/-- The text of the error, given the texts of failures. -/
def message {Failure : Type} (describe : Failure → String) : CallError Failure → String
  | rejected name => refusalMessage name
  | inner failure => describe failure

end CallError

/-- A circuit breaker for one dependency. -/
structure Breaker where
  name : String
  settings : BreakerSettings
  state : BreakerState := .closed
  failures : Nat := 0
  probes : Nat := 0
  openedAt : Option Instant := none
  deriving DecidableEq

namespace Breaker

/-- A closed breaker without failures. -/
def fresh (name : String) (settings : BreakerSettings) : Breaker where
  name := name
  settings := settings

/-- The failures in a row that open the breaker, at least one. -/
def threshold (breaker : Breaker) : Nat := max breaker.settings.failureThreshold 1

/-- The probes that a half-open breaker admits, at least one. -/
def probeLimit (breaker : Breaker) : Nat := max breaker.settings.halfOpenProbes 1

/-- Whether the reset timeout has passed since the breaker opened. -/
def hasRested (breaker : Breaker) (now : Instant) : Bool :=
  match breaker.openedAt with
  | none => true
  | some openedAt => breaker.settings.resetTimeout ≤ now.since openedAt

/-- Whether a call may be made now, and the breaker after the question. An open breaker that has
rested becomes half open and admits the call as its first probe. -/
def allow (breaker : Breaker) (now : Instant) : Bool × Breaker :=
  match breaker.state with
  | .closed => (true, breaker)
  | .opened =>
      if breaker.hasRested now then (true, { breaker with state := .halfOpen, probes := 1 })
      else (false, breaker)
  | .halfOpen =>
      if breaker.probes < breaker.probeLimit then
        (true, { breaker with probes := breaker.probes + 1 })
      else (false, breaker)

/-- The breaker forced to be closed, without failures. -/
def reset (breaker : Breaker) : Breaker :=
  { breaker with state := .closed, failures := 0, probes := 0, openedAt := none }

/-- The breaker after a successful call. An open breaker does not heed a call that was admitted
before it opened. -/
def onSuccess (breaker : Breaker) : Breaker :=
  match breaker.state with
  | .closed => { breaker with failures := 0 }
  | .opened => breaker
  | .halfOpen => breaker.reset

/-- The breaker after a failed call. -/
def onFailure (breaker : Breaker) (now : Instant) : Breaker :=
  match breaker.state with
  | .closed =>
      let counted := { breaker with failures := breaker.failures + 1 }
      if breaker.threshold ≤ counted.failures then
        { counted with state := .opened, openedAt := some now }
      else counted
  | .opened => breaker
  | .halfOpen => { breaker with state := .opened, probes := 0, openedAt := some now }

/-- The breaker after the result of an admitted call. -/
def report (breaker : Breaker) (now : Instant) {Failure Value : Type} :
    Except Failure Value → Breaker
  | .ok _ => breaker.onSuccess
  | .error _ => breaker.onFailure now

/-- A call through the breaker, with the operation's effect on its surroundings. The result is
reported at the time when the operation ends. -/
def call {World Failure Value : Type} (clock : World → Instant)
    (operation : World → Except Failure Value × World) (breaker : Breaker) (world : World) :
    Except (CallError Failure) Value × Breaker × World :=
  match breaker.allow (clock world) with
  | (false, breaker) => (.error (.rejected breaker.name), breaker, world)
  | (true, breaker) =>
      let (result, world) := operation world
      (result.mapError .inner, breaker.report (clock world) result, world)

/-- What is published of a breaker. -/
structure Snapshot where
  name : String
  state : BreakerState
  failures : Nat
  deriving DecidableEq

/-- The published view of a breaker. -/
def snapshot (breaker : Breaker) : Snapshot :=
  ⟨breaker.name, breaker.state, breaker.failures⟩

end Breaker

/-- A breaker for each dependency that has been used. -/
structure BreakerRegistry where
  settings : BreakerSettings
  breakers : SortedMap Breaker := ∅
  deriving DecidableEq

namespace BreakerRegistry

/-- The breaker of a dependency; a fresh one where there is none yet. -/
def breaker (registry : BreakerRegistry) (key : String) : Breaker :=
  (registry.breakers.get? key).getD (.fresh key registry.settings)

/-- The registry with a breaker kept for a dependency. -/
def put (registry : BreakerRegistry) (key : String) (breaker : Breaker) : BreakerRegistry :=
  { registry with breakers := registry.breakers.insert key breaker }

/-- The registry in which a dependency has a breaker. -/
def ensure (registry : BreakerRegistry) (key : String) : BreakerRegistry :=
  registry.put key (registry.breaker key)

/-- The registry with the breaker of a dependency changed. -/
def modify (registry : BreakerRegistry) (key : String) (change : Breaker → Breaker) :
    BreakerRegistry :=
  registry.put key (change (registry.breaker key))

/-- The registry without a dependency. -/
def remove (registry : BreakerRegistry) (key : String) : BreakerRegistry :=
  { registry with breakers := registry.breakers.erase key }

/-- The published views of all breakers, in the order of their keys. -/
def snapshots (registry : BreakerRegistry) : List Breaker.Snapshot :=
  registry.breakers.values.map Breaker.snapshot

end BreakerRegistry

end Fleet
