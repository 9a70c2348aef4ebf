import Fleet.Binary64.Arithmetic
import Fleet.Recent

/-!
# Latency percentiles

The latency of a model is described by percentiles of its last thousand observations. The
percentile is the observation at the nearest rank, in the total order of numbers.
-/

namespace Fleet.Telemetry

/-- The number of observations kept for a model. -/
def latencyCapacity : Nat := 1000

/-- The last latencies of a model in milliseconds. -/
abbrev LatencyWindow := Recent latencyCapacity Binary64

/-- The percentiles that describe a latency window. -/
structure Percentiles where
  p50 : Binary64
  p95 : Binary64
  p99 : Binary64
  deriving DecidableEq

/-- The observations in ascending total order. -/
def sortedLatencies (latencies : List Binary64) : List Binary64 :=
  latencies.mergeSort fun left right => (left.totalCompare right).isLE

/-- The index of the nearest rank of a percentage among `count` observations: the ceiling of the
percentage of the count, less one, within the range of indices. The subtraction is one of signed
words of 64 bits. -/
def nearestRank (percentage : Binary64) (count : Nat) : Nat :=
  let rank := (percentage / 100 * Binary64.ofNat count).ceilingWord
  let index := (rank - 1).bmod UInt64.size
  min index.toNat (count - 1)

/-- The percentile of ascending observations; zero where there are none. -/
def percentileOfSorted (sorted : List Binary64) (percentage : Binary64) : Binary64 :=
  sorted[nearestRank percentage sorted.length]?.getD 0

namespace LatencyWindow

/-- The percentile of a window. -/
def percentile (window : LatencyWindow) (percentage : Binary64) : Binary64 :=
  percentileOfSorted (sortedLatencies window.items) percentage

/-- The percentiles that describe a window. -/
def percentiles (window : LatencyWindow) : Percentiles :=
  let sorted := sortedLatencies window.items
  { p50 := percentileOfSorted sorted 50
    p95 := percentileOfSorted sorted 95
    p99 := percentileOfSorted sorted 99 }

end LatencyWindow

end Fleet.Telemetry
