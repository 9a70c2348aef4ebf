import Fleet.Proofs.Controller.Samples

/-!
# When replicas get ready

A sample that makes its replica ready sets the time at which it is recorded, in the running set and
in the record of the replica. Nothing else that a sample changes depends on that time.
-/

namespace Fleet

open Telemetry

namespace Replica

/-- The replica without when it got ready. It is still known whether it did. -/
def undated (replica : Replica) : Replica :=
  { replica with readyAt := replica.readyAt.map fun _ => 0 }

theorem id_undated (replica : Replica) : replica.undated.id = replica.id := rfl

theorem isAwaited_undated (replica : Replica) : replica.undated.isAwaited = replica.isAwaited := rfl

theorem undated_readied (now : Nat) (replica : Replica) :
    (replica.readied now).undated = replica.undated.readied 0 := by
  rw [readied, readied, isAwaited_undated]
  split <;> rfl

end Replica

/-- The record without when its replica got ready. It is still known whether it did. -/
def Telemetry.ReplicaRecord.undated (record : ReplicaRecord) : ReplicaRecord :=
  { record with readyAt := record.readyAt.map fun _ => 0 }

namespace Controller

theorem find?_map_undated (id : String) (replicas : List Replica) :
    (replicas.map Replica.undated).find? (·.id = id) =
      (replicas.find? (·.id = id)).map Replica.undated :=
  List.find?_map ..

theorem map_undated_changeFirst (id : String) (now : Nat) (replicas : List Replica) :
    (changeFirst (·.id = id) (Replica.readied now) replicas).map Replica.undated =
      changeFirst (·.id = id) (Replica.readied 0) (replicas.map Replica.undated) := by
  induction replicas with
  | nil => rfl
  | cons replica rest ih =>
      by_cases here : replica.id = id
      · simp [changeFirst, here, Replica.id_undated, Replica.undated_readied]
      · simp [changeFirst, here, Replica.id_undated, ih]

namespace Sample

theorem marks_undated (sample : Sample) (running : List Replica) :
    sample.marks (running.map Replica.undated) = sample.marks running := by
  rw [marks, marks, find?_map_undated, Option.any_map]
  rfl

theorem undated_settle (sample : Sample) (now : Nat) (running : List Replica) :
    (sample.settle now running).map Replica.undated =
      sample.settle 0 (running.map Replica.undated) := by
  simp only [settle]
  split
  · exact map_undated_changeFirst ..
  · rfl

theorem undated_note (sample : Sample) (record : ReplicaRecord) :
    (sample.note record).undated = sample.note record.undated := by
  simp only [note]
  cases sample.metrics <;> rfl

end Sample

namespace Tally

/-- The tally without when replicas got ready. -/
def undated (tally : Tally) : Tally where
  running := tally.running.map Replica.undated
  replicas := tally.replicas.mapValues fun _ => ReplicaRecord.undated
  counts := tally.counts

theorem growths_undated (sample : Sample) (replicas : SortedMap ReplicaRecord) :
    sample.growths (replicas.mapValues fun _ => ReplicaRecord.undated) =
      sample.growths replicas := by
  simp only [Sample.growths, Aggregator.growths, SortedMap.get?_mapValues]
  cases replicas.get? sample.replica <;> rfl

/-- Without the times, a sample changes the same whenever it is recorded. -/
theorem undated_record (tally : Tally) (now : Nat) (sample : Sample) :
    (tally.record now sample).undated = tally.undated.record 0 sample := by
  ext1
  · exact sample.undated_settle now tally.running
  · simp only [undated, record, Sample.marks_undated]
    apply SortedMap.mapValues_update
    intro record
    rw [Sample.undated_note]
    split <;> rfl
  · simp only [undated, record, growths_undated]

end Tally

/-- The controller without when its replicas got ready. -/
def undated (controller : Controller) : Controller :=
  { controller with
    running := controller.running.map Replica.undated
    aggregator :=
      { controller.aggregator with
        replicas := controller.aggregator.replicas.mapValues fun _ => ReplicaRecord.undated } }

end Controller

end Fleet
