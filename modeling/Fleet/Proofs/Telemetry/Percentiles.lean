import Fleet.Proofs.Binary64
import Fleet.Proofs.Recent
import Fleet.Telemetry.Latency
import Mathlib.Algebra.Order.Floor.Div

/-!
# Percentiles by nearest rank

A latency window keeps the last observations in their order. A percentile of them is the value at
the rank that is the exact ceiling of the percentage of their number, although the rank is computed
with roundings. The hundredth of a percentage is rounded to a share just below it. The exact product
with the number of observations is a whole number or at least a hundredth above the whole number
before, which is more than the roundings lose on a thousand observations.
-/

namespace Fleet.Telemetry

open Binary64

/-! ## Values at a rank -/

/-- The value at a rank, counted from one in ascending total order: fewer values are below it, and
at least as many are not above it. -/
structure IsRanked (rank : Nat) (value : Binary64) (values : List Binary64) : Prop where
  member : value ∈ values
  below : values.countP (fun other => other.totalCompare value = .lt) < rank
  notAbove : rank ≤ values.countP fun other => (other.totalCompare value).isLE

namespace IsRanked

variable {rank later : Nat} {value other : Binary64} {values : List Binary64}

/-- Values are ordered as their ranks are. -/
theorem ordered (low : IsRanked rank value values) (high : IsRanked later other values)
    (order : rank ≤ later) : (value.totalCompare other).isLE := by
  by_contra above
  have less : other.totalCompare value = .lt := Std.OrientedCmp.lt_of_not_isLE above
  have within : values.countP (fun third => (third.totalCompare other).isLE) ≤
      values.countP fun third => third.totalCompare value = .lt :=
    List.countP_mono_left fun third _ notAbove =>
      decide_eq_true (Std.TransCmp.lt_of_isLE_of_lt notAbove less)
  have below := low.below
  have notAbove := high.notAbove
  omega

/-- There is one value at a rank. -/
theorem unique (first : IsRanked rank value values) (second : IsRanked rank other values) :
    value = other :=
  eq_of_totalCompare (Std.OrientedCmp.isLE_antisymm (first.ordered second (Nat.le_refl rank))
    (second.ordered first (Nat.le_refl rank)))

theorem perm {permuted : List Binary64} (ranked : IsRanked rank value values)
    (same : values.Perm permuted) : IsRanked rank value permuted where
  member := same.mem_iff.mp ranked.member
  below := same.countP_eq _ ▸ ranked.below
  notAbove := same.countP_eq _ ▸ ranked.notAbove

end IsRanked

/-- In ascending order, ranks are positions. -/
theorem isRanked_of_ascending {values : List Binary64}
    (ascending : values.Pairwise fun left right => (left.totalCompare right).isLE) {index : Nat}
    (within : index < values.length) : IsRanked (index + 1) values[index] values := by
  have parts : values = values.take index ++ values[index] :: values.drop (index + 1) := by
    rw [← List.drop_eq_getElem_cons within, List.take_append_drop]
  have taken : (values.take index).length = index := List.length_take_of_le (Nat.le_of_lt within)
  generalize values[index] = value, values.take index = before,
    values.drop (index + 1) = after at parts taken ⊢
  clear within
  subst parts taken
  obtain ⟨-, fromValue, notAfter⟩ := List.pairwise_append.mp ascending
  have itself : value.totalCompare value = .eq := Std.ReflCmp.compare_self
  have onwards : (value :: after).countP (fun other => other.totalCompare value = .lt) = 0 := by
    refine List.countP_eq_zero.mpr fun other member less => ?_
    have below := of_decide_eq_true less
    rcases List.mem_cons.mp member with same | member
    · rw [same, itself] at below
      cases below
    · exact Std.OrientedCmp.not_isLE_of_lt below (List.rel_of_pairwise_cons fromValue member)
  have earlier : before.countP (fun other => (other.totalCompare value).isLE) = before.length :=
    List.countP_eq_length.mpr fun other member => notAfter other member value List.mem_cons_self
  have counted : 0 < (value :: after).countP fun other => (other.totalCompare value).isLE :=
    List.countP_pos_iff.mpr ⟨value, List.mem_cons_self, by rw [itself]; rfl⟩
  refine ⟨List.mem_append_right before List.mem_cons_self, ?_, ?_⟩
  · rw [List.countP_append, onwards, Nat.add_zero]
    exact Nat.lt_succ_of_le List.countP_le_length
  · rw [List.countP_append, earlier]
    omega

/-! ## Ranks -/

/-- A share that is at most some hundredths, and by at most a unit in the last place less. -/
structure IsHundredths (percentage : Nat) (share : Finite) : Prop where
  positive : share.negative = false
  atMost : share.size ≤ percentage / 100
  atLeast : (percentage : ℚ) / 100 - 2 ^ (-53 : ℤ) ≤ share.size

theorem isHundredths_of_mantissa {percentage mantissa : Nat} (canonical : Canonical mantissa (-53))
    (atMost : 100 * mantissa ≤ percentage * Nat.pow 2 53)
    (atLeast : percentage * Nat.pow 2 53 ≤ 100 * (mantissa + 1)) :
    IsHundredths percentage ⟨false, mantissa, -53, canonical⟩ := by
  have place : (2 : ℚ) ^ (-53 : ℤ) = 1 / (Nat.pow 2 53 : ℕ) := by norm_num
  have scale : (0 : ℚ) < (Nat.pow 2 53 : ℕ) := scale_pos 53
  have above : (100 : ℚ) * mantissa ≤ percentage * (Nat.pow 2 53 : ℕ) := by exact_mod_cast atMost
  have below : (percentage : ℚ) * (Nat.pow 2 53 : ℕ) ≤ 100 * (mantissa + 1) := by
    exact_mod_cast atLeast
  refine ⟨rfl, ?_, ?_⟩
  · rw [Finite.size, place, mul_one_div, div_le_div_iff₀ scale (by norm_num)]
    linarith
  · rw [Finite.size, place, mul_one_div, sub_le_iff_le_add, ← add_div,
      div_le_div_iff₀ (by norm_num) scale]
    linarith

/-- A percentage as a number that is given to the computation. -/
structure Denotes (given : Binary64) (percentage : Nat) : Prop where
  positive : 0 < percentage
  atMost : percentage ≤ 100
  share : ∃ share, given / 100 = .finite share ∧ IsHundredths percentage share

theorem fifty_denotes : Denotes 50 50 where
  positive := by decide
  atMost := by decide
  share := ⟨⟨false, 4503599627370496, -53, by decide⟩, by decide +kernel,
    isHundredths_of_mantissa _ (by decide) (by decide)⟩

theorem ninetyFive_denotes : Denotes 95 95 where
  positive := by decide
  atMost := by decide
  share := ⟨⟨false, 8556839292003942, -53, by decide⟩, by decide +kernel,
    isHundredths_of_mantissa _ (by decide) (by decide)⟩

theorem ninetyNine_denotes : Denotes 99 99 where
  positive := by decide
  atMost := by decide
  share := ⟨⟨false, 8917127262193582, -53, by decide⟩, by decide +kernel,
    isHundredths_of_mantissa _ (by decide) (by decide)⟩

theorem rank_pos {percentage count : Nat} (percentage_pos : 0 < percentage)
    (count_pos : 0 < count) : 0 < (percentage * count) ⌈/⌉ 100 := by
  have product_pos : 0 < percentage * count := Nat.mul_pos percentage_pos count_pos
  rw [Nat.ceilDiv_eq_add_pred_div]
  omega

theorem rank_le_count {percentage count : Nat} (percentage_le : percentage ≤ 100) :
    (percentage * count) ⌈/⌉ 100 ≤ count :=
  (ceilDiv_le_iff_le_mul (by decide)).mpr (Nat.mul_le_mul_right count percentage_le)

/-- The ceiling of the computed share of a number of observations is exact. -/
theorem ceilingWord_share {percentage count : Nat} {share : Finite}
    (hundredths : IsHundredths percentage share) (percentage_pos : 0 < percentage)
    (percentage_le : percentage ≤ 100) (count_pos : 0 < count)
    (count_le : count ≤ latencyCapacity) :
    (Binary64.finite share * ofNat count).ceilingWord = ((percentage * count) ⌈/⌉ 100 : ℕ) := by
  have count_short : count < 2 * hiddenBit := lt_of_le_of_lt count_le (by decide)
  obtain ⟨number, exact, sign, size⟩ := ofNat_eq_finite count_pos count_short
  have rank_eq : (percentage * count) ⌈/⌉ 100 = (percentage * count + 99) / 100 :=
    Nat.ceilDiv_eq_add_pred_div _ _
  have upper : percentage * count ≤ 100 * ((percentage * count) ⌈/⌉ 100) := by omega
  have lower : 100 * ((percentage * count) ⌈/⌉ 100) ≤ percentage * count + 99 := by omega
  have rank_pos := rank_pos percentage_pos count_pos
  have rank_le : (percentage * count) ⌈/⌉ 100 ≤ 1024 :=
    (rank_le_count percentage_le).trans (count_le.trans (by decide))
  generalize (percentage * count) ⌈/⌉ 100 = rank at *
  rw [exact, finite_mul, hundredths.positive, sign, bne_self_eq_false]
  have count_nonneg : (0 : ℚ) ≤ count := Nat.cast_nonneg count
  have upper_ratio : (percentage : ℚ) * count ≤ 100 * rank := by exact_mod_cast upper
  have lower_ratio : (100 : ℚ) * rank ≤ percentage * count + 99 := by exact_mod_cast lower
  refine ceilingWord_ofRatio (Nat.mul_pos unit_pos unit_pos) rank_pos rank_le ?_ ?_
  · have count_le_thousand : (count : ℚ) ≤ 1000 := by exact_mod_cast count_le
    have lost : (2 : ℚ) ^ (-42 : ℤ) + 2 ^ (-53 : ℤ) * 1000 ≤ 1 / 100 := by norm_num
    rw [magnitude_mul_div, size]
    calc (rank : ℚ) - 1 + 2 ^ (-42 : ℤ)
        ≤ percentage * count / 100 - 2 ^ (-53 : ℤ) * 1000 := by linarith
      _ ≤ percentage * count / 100 - 2 ^ (-53 : ℤ) * count := by gcongr
      _ = (percentage / 100 - 2 ^ (-53 : ℤ)) * count := by ring
      _ ≤ share.size * count := by gcongr; exact hundredths.atLeast
  · rw [magnitude_mul_div, size]
    calc share.size * count ≤ percentage / 100 * count := by gcongr; exact hundredths.atMost
      _ ≤ rank := by linarith

/-- The rank of a percentage is the exact one. -/
theorem nearestRank_eq {percentage count : Nat} {given : Binary64}
    (denotes : Denotes given percentage) (count_pos : 0 < count)
    (count_le : count ≤ latencyCapacity) :
    nearestRank given count + 1 = (percentage * count) ⌈/⌉ 100 := by
  obtain ⟨share, quotient, hundredths⟩ := denotes.share
  have ceiling := ceilingWord_share hundredths denotes.positive denotes.atMost count_pos count_le
  have rank_pos := rank_pos denotes.positive count_pos
  have rank_le : (percentage * count) ⌈/⌉ 100 ≤ count := rank_le_count denotes.atMost
  have capacity : latencyCapacity = 1000 := rfl
  have word : UInt64.size = 18446744073709551616 := rfl
  generalize (percentage * count) ⌈/⌉ 100 = rank at *
  have index : ((rank : ℤ) - 1).bmod UInt64.size = rank - 1 :=
    Int.bmod_eq_of_le (by omega) (by omega)
  simp only [nearestRank, quotient, ceiling, index]
  omega

/-! ## Percentiles -/

/-- The percentile of values by nearest rank; zero where there are none. -/
def IsPercentile (percentage : Nat) (value : Binary64) (values : List Binary64) : Prop :=
  if values = [] then value = 0
  else IsRanked ((percentage * values.length) ⌈/⌉ 100) value values

theorem sortedLatencies_perm (latencies : List Binary64) :
    (sortedLatencies latencies).Perm latencies :=
  List.mergeSort_perm latencies _

theorem sortedLatencies_ascending (latencies : List Binary64) :
    (sortedLatencies latencies).Pairwise fun left right => (left.totalCompare right).isLE := by
  refine List.pairwise_mergeSort (fun _ _ _ => Std.TransCmp.isLE_trans) (fun left right => ?_)
    latencies
  have swapped : (right.totalCompare left).isLE = (left.totalCompare right).isGE :=
    Std.OrientedCmp.isGE_eq_isLE.symm
  rw [swapped]
  cases left.totalCompare right <;> decide

section Percentile

variable {percentage : Nat} {given value other : Binary64} {latencies : List Binary64}

/-- A percentile is the only one. -/
theorem IsPercentile.unique (first : IsPercentile percentage value latencies)
    (second : IsPercentile percentage other latencies) : value = other := by
  rw [IsPercentile] at first second
  split at first
  · next none =>
      rw [if_pos none] at second
      rw [first, second]
  · next some =>
      rw [if_neg some] at second
      exact first.unique second

theorem IsPercentile.iff (percentile : IsPercentile percentage value latencies) (other : Binary64) :
    IsPercentile percentage other latencies ↔ other = value :=
  ⟨fun same => same.unique percentile, fun same => same ▸ percentile⟩

theorem percentileOfSorted_isPercentile (denotes : Denotes given percentage)
    (retained : latencies.length ≤ latencyCapacity) :
    IsPercentile percentage (percentileOfSorted (sortedLatencies latencies) given) latencies := by
  have permuted := sortedLatencies_perm latencies
  have ascending := sortedLatencies_ascending latencies
  rw [IsPercentile]
  split
  · next none =>
      rw [none, sortedLatencies, List.mergeSort_nil]
      rfl
  · next some =>
      have count_pos : 0 < latencies.length := List.length_pos_iff.mpr some
      rw [← permuted.length_eq] at retained count_pos ⊢
      have rank := nearestRank_eq denotes count_pos retained
      have within : nearestRank given (sortedLatencies latencies).length <
          (sortedLatencies latencies).length := by
        rw [← Nat.succ_le_iff, Nat.succ_eq_add_one, rank]
        exact rank_le_count denotes.atMost
      rw [percentileOfSorted, List.getElem?_eq_getElem within, Option.getD_some, ← rank]
      exact (isRanked_of_ascending ascending within).perm permuted

/-- Percentiles are ordered as the percentages are. -/
theorem IsPercentile.ordered {greater : Nat} (low : IsPercentile percentage value latencies)
    (high : IsPercentile greater other latencies) (order : percentage ≤ greater) :
    (value.totalCompare other).isLE := by
  rw [IsPercentile] at low high
  split at low
  · next none =>
      rw [if_pos none] at high
      rw [low, high]
      decide
  · next some =>
      rw [if_neg some] at high
      refine low.ordered high ?_
      rw [Nat.ceilDiv_eq_add_pred_div, Nat.ceilDiv_eq_add_pred_div]
      gcongr

end Percentile

section Window

variable (window : LatencyWindow)

theorem p50_isPercentile : IsPercentile 50 window.percentiles.p50 window.items :=
  percentileOfSorted_isPercentile fifty_denotes window.length_le

theorem p95_isPercentile : IsPercentile 95 window.percentiles.p95 window.items :=
  percentileOfSorted_isPercentile ninetyFive_denotes window.length_le

theorem p99_isPercentile : IsPercentile 99 window.percentiles.p99 window.items :=
  percentileOfSorted_isPercentile ninetyNine_denotes window.length_le

end Window

/-- Whatever was observed, a window holds the last thousand latencies in their order. Its
percentiles are those by nearest rank of what it holds, and no others are. -/
theorem percentiles_nearest_rank (latencies : List Binary64) :
    let window : LatencyWindow := Recent.empty.pushAll latencies
    let kept := latencies.drop (latencies.length - latencyCapacity)
    window.items = kept ∧ kept.length = min latencies.length latencyCapacity ∧
      (∀ value, IsPercentile 50 value kept ↔ value = window.percentiles.p50) ∧
      (∀ value, IsPercentile 95 value kept ↔ value = window.percentiles.p95) ∧
      (∀ value, IsPercentile 99 value kept ↔ value = window.percentiles.p99) ∧
      (window.percentiles.p50.totalCompare window.percentiles.p95).isLE ∧
      (window.percentiles.p95.totalCompare window.percentiles.p99).isLE := by
  intro window kept
  have holds : window.items = kept := by
    simp [window, kept, Recent.items_pushAll, Recent.empty, List.rtake]
  have length : kept.length = min latencies.length latencyCapacity := by
    simp only [kept, List.length_drop]
    omega
  -- What remains holds of every window, however it was filled.
  clear_value kept window
  have p50 := p50_isPercentile window
  have p95 := p95_isPercentile window
  have p99 := p99_isPercentile window
  rw [holds] at p50 p95 p99
  exact ⟨holds, length, p50.iff, p95.iff, p99.iff, p50.ordered p95 (by decide),
    p95.ordered p99 (by decide)⟩

end Fleet.Telemetry
