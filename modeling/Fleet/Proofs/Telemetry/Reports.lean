import Fleet.Proofs.SortedMap
import Fleet.Telemetry.Aggregator

/-!
# What a report changes

A report of metrics replaces the last observation of one replica, and adds the growth of its
counters to the counts of the models that it names. The counts are sums, so that reports count the
same in every order.
-/

namespace Fleet.Telemetry

namespace ReplicaRecord

/-- The record after its replica reported metrics. -/
def reported (host text : String) (record : ReplicaRecord) : ReplicaRecord :=
  { record with
    host := host
    load := loadOfText text
    queueDepth := queueDepthOfSamples (readExposition text)
    accelerators := acceleratorReadings (readExposition text)
    counters := countersOfSamples (readExposition text) }

/-- The record after its replica gave no metrics. -/
def unreported (host : String) (record : ReplicaRecord) : ReplicaRecord :=
  { record with host := host, load := 0 }

end ReplicaRecord

/-- The numbers of requests and of failed ones. -/
abbrev RequestCounts := UInt64 × UInt64

/-- The counts with the growth of a server's counters. -/
def RequestCounts.add (growth : ModelCounters) (counts : RequestCounts) : RequestCounts :=
  (counts.1 + growth.requests, counts.2 + growth.failure)

theorem RequestCounts.add_comm (first second : ModelCounters) (counts : RequestCounts) :
    RequestCounts.add second (.add first counts) = .add first (.add second counts) := by
  simp only [RequestCounts.add, UInt64.add_assoc, UInt64.add_comm first.requests,
    UInt64.add_comm first.failure]

/-- The counts of the models with the growth of their counters, one after the other. -/
def countAll (counts : SortedMap RequestCounts) (growths : List (String × ModelCounters)) :
    SortedMap RequestCounts :=
  growths.foldl (fun counts growth => counts.update growth.1 (0, 0) (.add growth.2)) counts

/-- It does not matter which of two reports is counted first. -/
theorem countAll_comm (counts : SortedMap RequestCounts)
    (first second : List (String × ModelCounters)) :
    countAll (countAll counts first) second = countAll (countAll counts second) first := by
  simp only [countAll, ← List.foldl_append]
  apply List.perm_append_comm.foldl_eq'
  intro earlier _ later _ reached
  exact reached.update_comm_of_commute _ _ _ (RequestCounts.add_comm earlier.2 later.2)

namespace Aggregator

/-- The counts of the requests for each model. -/
def counts (aggregator : Aggregator) : SortedMap RequestCounts :=
  aggregator.models.mapValues fun _ activity => (activity.requests, activity.errors)

/-- The growth of each model's counters that a report of a replica tells of. -/
def growths (replicas : SortedMap ReplicaRecord) (replica text : String) :
    List (String × ModelCounters) :=
  growthSince ((replicas.get? replica).getD {}).counters (countersOfSamples (readExposition text))

theorem counts_updateModel_absorb (aggregator : Aggregator) (model : String)
    (growth : ModelCounters) :
    (aggregator.updateModel model (·.absorb growth)).counts =
      aggregator.counts.update model (0, 0) (.add growth) := by
  simp only [counts, updateModel]
  exact aggregator.models.mapValues_update (fun _ activity => (activity.requests, activity.errors))
    model {} fun _ => rfl

theorem ingest_replicas (aggregator : Aggregator) (replica host text : String) :
    (aggregator.ingest replica host text).1.replicas =
      aggregator.replicas.update replica {} (.reported host text) := by
  simp only [ingest]
  apply List.foldlRecOn (motive := fun reached : Aggregator =>
    reached.replicas = aggregator.replicas.update replica {} (.reported host text))
  · rfl
  · intro reached same growth _
    exact same

theorem ingest_counts (aggregator : Aggregator) (replica host text : String) :
    (aggregator.ingest replica host text).1.counts =
      countAll aggregator.counts (growths aggregator.replicas replica text) := by
  simp only [ingest]
  exact (List.foldl_hom counts fun reached growth =>
    (counts_updateModel_absorb reached growth.1 growth.2).symm).symm

end Aggregator

end Fleet.Telemetry
