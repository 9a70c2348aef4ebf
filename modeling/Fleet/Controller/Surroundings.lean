import Fleet.Cluster.Error
import Fleet.Cluster.Events
import Fleet.Controller.Status
import Fleet.Launch.Plan

/-!
# Surroundings of the controller

The controller acts on a world that it does not know: a clock, an allocator, a launcher, the probes
of replicas, a queue of events and a shutdown signal. Each of these is a function on the world, so
that every statement about the controller can be made for every world.
-/

namespace Fleet

/-- What the controller can ask of its world and do to it. -/
structure Surroundings (World : Type) where
  clock : World → Instant
  /-- The time of day, in milliseconds of the epoch. -/
  epoch : World → Nat
  register : World → Except ClusterError Registration × World
  unregister : World → Except ClusterError Unit × World
  request : AllocationRequest → World → Except ClusterError Unit × World
  release : String → World → Except ClusterError Unit × World
  launch : Replica → LaunchContext → World → Except ClusterError Unit × World
  stop : Replica → World → Except ClusterError Unit × World
  /-- Whether a replica is ready; none where the probe failed. -/
  ready : Replica → World → Option Bool × World
  /-- The metrics of a replica; none where the probe failed. -/
  metrics : Replica → World → Option String × World
  /-- Takes the oldest event off the queue. -/
  receive : World → Option ClusterEvent × World
  /-- Whether the shutdown signal reads true. -/
  isCancelled : World → Bool
  /-- Whether the shutdown signal reads true or can never turn true any more. -/
  isEnding : World → Bool
  /-- Lets time pass until an instant, or until the shutdown signal reads true before it. Readers
  look at the handle meanwhile. -/
  rest : Handle → Instant → World → World
  /-- Lets time pass until an instant, or until an event or a change of the shutdown signal
  arrives before it. -/
  await : Handle → Instant → World → World

end Fleet
