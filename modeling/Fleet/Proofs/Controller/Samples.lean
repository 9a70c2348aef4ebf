import Fleet.Proofs.Controller.Sampling
import Fleet.Proofs.Telemetry.Reports

/-!
# What samples change

A sample makes its replica ready where that was waited for, replaces the record of the replica, and
adds to the counts of the models that its metrics name. It touches no other replica and no other
record, and the counts are sums. So samples of different replicas change the same in every order.
-/

namespace Fleet

open Telemetry

namespace Replica

/-- Whether it is waited for that the replica gets ready. -/
def isAwaited (replica : Replica) : Bool := !(replica.isReady || replica.isStopping)

/-- The replica after it was found ready. -/
def readied (now : Nat) (replica : Replica) : Replica :=
  if replica.isAwaited then { replica with phase := .ready, readyAt := some now } else replica

theorem id_readied (now : Nat) (replica : Replica) : (replica.readied now).id = replica.id := by
  simp only [readied]
  split <;> rfl

end Replica

namespace Controller

variable {World : Type}

/-! ## One replica of a list -/

section ChangeFirst

variable {id other : String} {change next : Replica → Replica}
  (keeps : ∀ replica, (change replica).id = replica.id)

include keeps in
theorem find?_changeFirst_self (replicas : List Replica) :
    (changeFirst (·.id = id) change replicas).find? (·.id = id) =
      (replicas.find? (·.id = id)).map change := by
  induction replicas with
  | nil => rfl
  | cons replica rest ih =>
      simp only [changeFirst, decide_eq_true_eq]
      split
      · next here => simp [here, keeps]
      · next elsewhere => simp [elsewhere, ih]

include keeps in
theorem find?_changeFirst_of_ne (different : other ≠ id) (replicas : List Replica) :
    (changeFirst (·.id = id) change replicas).find? (·.id = other) =
      replicas.find? (·.id = other) := by
  induction replicas with
  | nil => rfl
  | cons replica rest ih =>
      simp only [changeFirst, decide_eq_true_eq]
      split
      · next here => simp [here, keeps, Ne.symm different]
      · rw [List.find?_cons, List.find?_cons, ih]

include keeps in
/-- Two replicas may be changed in either order. -/
theorem changeFirst_comm (keepsToo : ∀ replica, (next replica).id = replica.id)
    (different : id ≠ other) (replicas : List Replica) :
    changeFirst (·.id = other) next (changeFirst (·.id = id) change replicas) =
      changeFirst (·.id = id) change (changeFirst (·.id = other) next replicas) := by
  induction replicas with
  | nil => rfl
  | cons replica rest ih =>
      by_cases here : replica.id = id
      · have elsewhere : ¬replica.id = other := here ▸ different
        simp [changeFirst, here, keeps, different]
      · by_cases there : replica.id = other
        · simp [changeFirst, there, keepsToo, Ne.symm different]
        · simp [changeFirst, here, there, ih]

end ChangeFirst

/-- Only what a change makes of the found replica matters. -/
theorem changeFirst_congr {chosen : Replica → Bool} {change next : Replica → Replica}
    {replicas : List Replica}
    (same : ∀ replica, replicas.find? chosen = some replica → change replica = next replica) :
    changeFirst chosen change replicas = changeFirst chosen next replicas := by
  induction replicas with
  | nil => rfl
  | cons replica rest ih =>
      simp only [changeFirst]
      by_cases here : chosen replica
      · rw [if_pos here, if_pos here, same replica (List.find?_cons_of_pos here)]
      · rw [if_neg here, if_neg here, ih fun other found => same other ?_]
        rw [List.find?_cons_of_neg here, found]

theorem changeFirst_id (chosen : Replica → Bool) (replicas : List Replica) :
    changeFirst chosen id replicas = replicas := by
  induction replicas with
  | nil => rfl
  | cons replica rest ih =>
      simp only [changeFirst, ih]
      split <;> rfl

theorem markReady_eq (controller : Controller) (id : String) (now : Nat) :
    controller.markReady id now =
      { controller with
        running := changeFirst (·.id = id) (Replica.readied now) controller.running
        aggregator :=
          if (controller.running.find? (·.id = id)).any Replica.isAwaited then
            controller.aggregator.recordReady id now
          else controller.aggregator } := by
  have unchanged (found : ∀ replica, controller.running.find? (·.id = id) = some replica →
      replica.isAwaited = false) :
      changeFirst (·.id = id) (Replica.readied now) controller.running = controller.running := by
    rw [changeFirst_congr fun replica first => ?_, changeFirst_id]
    simp [Replica.readied, found replica first]
  simp only [markReady]
  cases found : controller.running.find? (·.id = id) with
  | none =>
      rw [unchanged (by simp [found])]
      rfl
  | some replica =>
      by_cases awaited : replica.isAwaited
      · have eligible : (replica.isReady || replica.isStopping) = false :=
          Bool.not_eq_eq_eq_not.mp awaited
        simp only [eligible, Bool.false_eq_true, if_false, Option.any_some, awaited, if_true,
          changeReplica]
        rw [changeFirst_congr fun other first => ?_]
        obtain rfl : replica = other := Option.some.inj (found.symm.trans first)
        simp [Replica.readied, awaited]
      · rw [Bool.not_eq_true] at awaited
        have eligible : (replica.isReady || replica.isStopping) = true :=
          Bool.not_eq_eq_eq_not.mp awaited
        rw [unchanged (by simp [found, awaited])]
        simp only [eligible, if_true, Option.any_some, awaited, Bool.false_eq_true, if_false]

/-! ## What a sample tells -/

namespace Sample

/-- Whether a sample makes its replica ready. -/
def marks (sample : Sample) (running : List Replica) : Bool :=
  sample.ready && (running.find? (·.id = sample.replica)).any Replica.isAwaited

/-- The running set after a sample. -/
def settle (sample : Sample) (now : Nat) (running : List Replica) : List Replica :=
  if sample.ready then changeFirst (·.id = sample.replica) (Replica.readied now) running
  else running

/-- The record of a replica after its sample. -/
def note (sample : Sample) (record : ReplicaRecord) : ReplicaRecord :=
  match sample.metrics with
  | some text => record.reported sample.host text
  | none => record.unreported sample.host

/-- The growth of the models' counters that a sample tells of. -/
def growths (sample : Sample) (replicas : SortedMap ReplicaRecord) :
    List (String × ModelCounters) :=
  match sample.metrics with
  | some text => Aggregator.growths replicas sample.replica text
  | none => []

/-- The load of a replica by its sample. -/
def load (sample : Sample) : Binary64 :=
  match sample.metrics with
  | some text => loadOfText text
  | none => 0

variable {sample other : Sample}

theorem find?_settle_of_ne {id : String} (different : id ≠ sample.replica) (now : Nat)
    (running : List Replica) :
    (sample.settle now running).find? (·.id = id) = running.find? (·.id = id) := by
  simp only [settle]
  split
  · exact find?_changeFirst_of_ne (Replica.id_readied now) different running
  · rfl

theorem marks_settle (different : other.replica ≠ sample.replica) (now : Nat)
    (running : List Replica) : other.marks (sample.settle now running) = other.marks running := by
  rw [marks, marks, find?_settle_of_ne different]

theorem settle_comm (different : sample.replica ≠ other.replica) (now later : Nat)
    (running : List Replica) :
    other.settle later (sample.settle now running) =
      sample.settle now (other.settle later running) := by
  simp only [settle]
  by_cases ready : sample.ready
  · by_cases readyToo : other.ready
    · simp only [ready, readyToo, if_true]
      exact changeFirst_comm (Replica.id_readied now) (Replica.id_readied later) different running
    · simp [readyToo]
  · simp [ready]

end Sample

/-! ## What is read off a controller -/

/-- What samples change: the running set, the records of the replicas, and the counts of the
models. -/
@[ext]
structure Tally where
  running : List Replica
  replicas : SortedMap ReplicaRecord
  counts : SortedMap RequestCounts

/-- The controller as far as samples change it. -/
def tally (controller : Controller) : Tally where
  running := controller.running
  replicas := controller.aggregator.replicas
  counts := controller.aggregator.counts

namespace Tally

/-- The tally after a sample. -/
def record (tally : Tally) (now : Nat) (sample : Sample) : Tally where
  running := sample.settle now tally.running
  replicas := tally.replicas.update sample.replica {} fun record =>
    sample.note
      (if sample.marks tally.running then { record with readyAt := some now } else record)
  counts := countAll tally.counts (sample.growths tally.replicas)

/-- It does not matter which of two samples of different replicas is recorded first. -/
theorem record_comm {sample other : Sample} (different : sample.replica ≠ other.replica)
    (now later : Nat) (tally : Tally) :
    (tally.record now sample).record later other =
      (tally.record later other).record now sample := by
  have apart := Ne.symm different
  have growths (first second : Sample) (different : second.replica ≠ first.replica)
      (change : ReplicaRecord → ReplicaRecord) :
      second.growths (tally.replicas.update first.replica {} change) =
        second.growths tally.replicas := by
    simp only [Sample.growths, Aggregator.growths]
    rw [SortedMap.get?_update_of_ne _ _ _ different]
  ext1
  · exact Sample.settle_comm different now later tally.running
  · simp only [record, Sample.marks_settle different, Sample.marks_settle apart]
    exact tally.replicas.update_comm different ..
  · simp only [record, growths sample other apart, growths other sample different]
    exact countAll_comm ..

end Tally

theorem tally_marked (controller : Controller) (now : Nat) (sample : Sample) :
    (if sample.ready then controller.markReady sample.replica now else controller).tally =
      { running := sample.settle now controller.running
        replicas :=
          if sample.marks controller.running then
            controller.aggregator.replicas.update sample.replica {}
              ({ · with readyAt := some now })
          else controller.aggregator.replicas
        counts := controller.aggregator.counts } := by
  by_cases ready : sample.ready
  · rw [if_pos ready, markReady_eq]
    simp only [tally, Sample.settle, Sample.marks, ready, if_true, Bool.true_and]
    split <;> rfl
  · simp [ready, tally, Sample.settle, Sample.marks]

/-- What a sample changes depends on nothing else of the controller. -/
theorem tally_recordSample (controller : Controller) (now : Nat) (sample : Sample) :
    (controller.recordSample now sample).1.tally = controller.tally.record now sample := by
  have marked := tally_marked controller now sample
  simp only [recordSample]
  generalize (if sample.ready then controller.markReady sample.replica now else controller) =
    reached at marked ⊢
  have running : reached.running = _ := congrArg Tally.running marked
  have replicas : reached.aggregator.replicas = _ := congrArg Tally.replicas marked
  have counts : reached.aggregator.counts = _ := congrArg Tally.counts marked
  -- Both changes of the record are one, and the first one leaves the counters as they were.
  have noted (change : ReplicaRecord → ReplicaRecord) :
      reached.aggregator.replicas.update sample.replica {} change =
        controller.aggregator.replicas.update sample.replica {} fun record =>
          change (if sample.marks controller.running then { record with readyAt := some now }
            else record) := by
    rw [replicas]
    split
    · rw [SortedMap.update_update]
      rfl
    · rfl
  have growths (text : String) :
      Aggregator.growths reached.aggregator.replicas sample.replica text =
        Aggregator.growths controller.aggregator.replicas sample.replica text := by
    rw [replicas]
    simp only [Aggregator.growths]
    split
    · rw [SortedMap.get?_update_self]
      rfl
    · rfl
  cases metrics : sample.metrics with
  | none =>
      ext1
      · exact running
      · simp only [Tally.record, Sample.note, metrics]
        exact noted (.unreported sample.host)
      · simp only [Tally.record, Sample.growths, metrics]
        exact counts
  | some text =>
      ext1
      · exact running
      · simp only [Tally.record, Sample.note, metrics]
        exact (Aggregator.ingest_replicas ..).trans (noted (.reported sample.host text))
      · simp only [Tally.record, Sample.growths, metrics]
        exact (Aggregator.ingest_counts ..).trans (by rw [counts, growths]; rfl)

end Controller

end Fleet
