import Fleet.Proofs.Binary64.Unsigned
import Fleet.Proofs.Duration

/-!
# Durations as numbers of seconds

Numbers of `2 ^ 64` seconds and more are no durations. A duration that is shorter becomes a number
of seconds without sign, but near the limit the numbers of the format are 2048 apart: from 1024
seconds below the limit on it is rounded up to the limit, and the number is no duration any more.
-/

namespace Fleet

namespace Binary64

/-! ## Rounding near the limit -/

/-- Below the limit the numbers of the format leave a gap. -/
theorem IsSized.size_le_of_lt {value : Binary64} {size : ℚ} (sized : value.IsSized size)
    (below : size < 2 ^ 64) : size ≤ 2 ^ 64 - 2 ^ 11 := by
  rcases sized with ⟨value, -, -, rfl⟩
  rcases value.canonical with ⟨short, -, -, long⟩
  have shortest : (value.mantissa : ℚ) ≤ 2 ^ 53 - 1 := by
    have less : value.mantissa + 1 ≤ 2 ^ 53 := short
    have cast : ((value.mantissa + 1 : ℕ) : ℚ) ≤ 2 ^ 53 := by exact_mod_cast less
    rw [Nat.cast_succ] at cast
    linarith
  by_cases low : value.exponent ≤ 11
  · have step : (2 : ℚ) ^ value.exponent ≤ 2 ^ (11 : ℤ) := zpow_le_zpow_right₀ one_le_two low
    calc value.size ≤ (2 ^ 53 - 1) * 2 ^ (11 : ℤ) := by
          rw [Finite.size]
          gcongr
      _ = 2 ^ 64 - 2 ^ 11 := by norm_num
  · exfalso
    have hidden : hiddenBit ≤ value.mantissa :=
      long.resolve_right (by simp only [leastExponent]; omega)
    have step : (2 : ℚ) ^ (12 : ℤ) ≤ 2 ^ value.exponent :=
      zpow_le_zpow_right₀ one_le_two (by omega)
    apply not_le_of_gt below
    calc (2 : ℚ) ^ 64 = (hiddenBit : ℕ) * 2 ^ (12 : ℤ) := by
          rw [hiddenBit_cast]
          norm_num
      _ ≤ value.size := by
          rw [Finite.size]
          gcongr

/-- A ratio whose last place is the one below the limit is rounded up to it from the middle of the
gap on. -/
theorem limit_le_iff {ratio : ℚ} {mantissa : Nat}
    (limits : ∀ bound, mantissa ≤ bound ↔ RoundsWithin ratio (2 ^ (11 : ℤ)) bound) :
    2 ^ 64 ≤ (mantissa : ℚ) * 2 ^ (11 : ℤ) ↔ 2 ^ 64 - 2 ^ 10 ≤ ratio := by
  have short : mantissa ≤ 2 ^ 53 - 1 ↔ ratio < 2 ^ 64 - 2 ^ 10 := by
    rw [limits, RoundsWithin, or_iff_left (fun tie => absurd tie.2 (by decide))]
    norm_num
    constructor <;> intro less <;> linarith
  have scaled : (2 : ℚ) ^ 64 = (2 ^ 53 : ℕ) * 2 ^ (11 : ℤ) := by norm_num
  rw [scaled, mul_le_mul_iff_left₀ (zpow_pos two_pos _), Nat.cast_le, ← scaled, ← not_iff_not,
    not_le, not_le, ← short]
  omega

/-- A ratio that is not far beyond the limit is rounded to a value that reaches the limit exactly if
the ratio reaches the middle of the gap. -/
theorem exists_isSized_ofRatio {numerator denominator : Nat} (positive : 0 < denominator)
    (bounded : (numerator : ℚ) / denominator < 2 ^ 65) :
    ∃ size, (ofRatio false numerator denominator).IsSized size ∧
      (2 ^ 64 ≤ size ↔ 2 ^ 64 - 2 ^ 10 ≤ (numerator : ℚ) / denominator) ∧
      ∀ power : Nat, (numerator : ℚ) / denominator < 2 ^ power → size ≤ 2 ^ power := by
  rcases Nat.eq_zero_or_pos numerator with rfl | above
  · refine ⟨0, isSized_zero, ?_, fun power _ => by positivity⟩
    norm_num
  have greatest : floorLog2 numerator denominator < 65 :=
    (floorLog2_lt_iff above positive).mpr (by exact_mod_cast bounded)
  rcases ofRatio_eq_nearest false above positive (by omega) with
    ⟨value, mantissa, rounded, sign, nearest⟩
  refine ⟨value.size, ⟨value, rounded, sign, rfl⟩, ?_,
    fun _ => nearest.size_le_power above positive⟩
  rcases lt_trichotomy (floorLog2 numerator denominator) 63 with low | last | high
  · -- Both the ratio and its value are at most half of the limit.
    have below : (numerator : ℚ) / denominator < 2 ^ 63 := by
      exact_mod_cast (floorLog2_lt_iff above positive).mp low
    have small := nearest.size_le_power above positive below
    norm_num at below small ⊢
    constructor <;> intro reached <;> linarith
  · have place : lastPlace numerator denominator = 11 := by
      simp only [lastPlace, leastExponent, last]
      decide
    rw [nearest.size, place]
    exact limit_le_iff (place ▸ nearest.limits)
  · have reached : (2 : ℚ) ^ 64 ≤ numerator / denominator := by
      have notBelow := mt (floorLog2_lt_iff above positive).mpr (not_lt.mpr high)
      exact_mod_cast not_lt.mp notBelow
    have sizeReached := nearest.power_le_size above positive reached
    norm_num at reached sizeReached ⊢
    constructor <;> intro _ <;> linarith

/-! ## Sums and quotients -/

/-- A sum of values without sign is rounded up to the limit from the middle of the gap on. -/
theorem IsSized.add {left right : Binary64} {first second : ℚ} (leftSized : left.IsSized first)
    (rightSized : right.IsSized second) (bounded : first + second < 2 ^ 65) :
    ∃ size, (left + right).IsSized size ∧
      (2 ^ 64 ≤ size ↔ 2 ^ 64 - 2 ^ 10 ≤ first + second) := by
  rcases leftSized with ⟨left, rfl, leftSign, rfl⟩
  rcases rightSized with ⟨right, rfl, rightSign, rfl⟩
  have ratio : ((left.magnitude + right.magnitude : ℕ) : ℚ) / unit = left.size + right.size := by
    rw [Nat.cast_add, magnitude_cast, magnitude_cast, ← add_mul,
      mul_div_cancel_right₀ _ unit_cast_pos.ne']
  have rounded : finite left + finite right =
      ofRatio false (left.magnitude + right.magnitude) unit := by
    change Binary64.add (finite left) (finite right) = _
    simp only [Binary64.add, units_of_unsigned leftSign, units_of_unsigned rightSign, leftSign,
      Bool.false_and]
    split
    · next none =>
      have zeros : left.magnitude + right.magnitude = 0 := by omega
      rw [zeros, ofRatio, if_pos rfl]
    · rw [decide_eq_false (by omega), ← Int.natCast_add, Int.natAbs_natCast]
  rw [← ratio] at bounded ⊢
  rcases exists_isSized_ofRatio unit_pos bounded with ⟨size, sized, reaches, -⟩
  exact ⟨size, rounded ▸ sized, reaches⟩

/-- A proper fraction is rounded to a value that is at most one. -/
theorem IsSized.div {left right : Binary64} {first second : ℚ} (leftSized : left.IsSized first)
    (rightSized : right.IsSized second) (below : first < second) :
    ∃ size, (left / right).IsSized size ∧ size ≤ 1 := by
  have positive : 0 < second := leftSized.nonneg.trans_lt below
  rcases leftSized with ⟨left, rfl, leftSign, rfl⟩
  rcases rightSized with ⟨right, rfl, rightSign, rfl⟩
  have ratio : (left.magnitude : ℚ) / right.magnitude = left.size / right.size := by
    rw [magnitude_cast, magnitude_cast, mul_div_mul_right _ _ unit_cast_pos.ne']
  have nonzero : right.mantissa ≠ 0 := by
    intro none
    rw [Finite.size, none, Nat.cast_zero, zero_mul] at positive
    exact lt_irrefl _ positive
  have divisor : 0 < right.magnitude :=
    Nat.mul_pos (Nat.pos_of_ne_zero nonzero) (Nat.pow_pos (by decide))
  have rounded : finite left / finite right = ofRatio false left.magnitude right.magnitude := by
    change Binary64.div (finite left) (finite right) = _
    rw [Binary64.div, if_neg nonzero, leftSign, rightSign, bne_self_eq_false]
  have small : (left.magnitude : ℚ) / right.magnitude < 1 := by
    rw [ratio, div_lt_one positive]
    exact below
  rcases exists_isSized_ofRatio divisor (small.trans (by norm_num)) with
    ⟨size, sized, -, notPassed⟩
  refine ⟨size, rounded ▸ sized, ?_⟩
  simpa using notPassed 0 (by simpa using small)

/-- A whole number of at most 53 bits is exact. -/
theorem isSized_ofNat {number : Nat} (fits : number < 2 * hiddenBit) :
    (ofNat number).IsSized number := by
  rcases Nat.eq_zero_or_pos number with rfl | positive
  · rw [Nat.cast_zero]
    exact isSized_zero
  · rcases ofNat_eq_finite positive fits with ⟨value, rounded, sign, size⟩
    exact ⟨value, rounded, sign, size⟩

end Binary64

namespace Duration

open Binary64

/-! ## Durations to seconds and back -/

theorem isSized_limit : (ofNat limit).IsSized (2 ^ 64) := by
  have exact : ofNat limit = .finite ⟨false, hiddenBit, 12, by decide⟩ := by decide +kernel
  refine ⟨_, exact, rfl, ?_⟩
  rw [Finite.size, hiddenBit_cast]
  norm_num

theorem exists_isSized_ofNat {number : Nat} (fits : number < limit) :
    ∃ size, (ofNat number).IsSized size ∧ (2 ^ 64 ≤ size ↔ 2 ^ 64 - 1024 ≤ number) ∧
      size ≤ 2 ^ 64 := by
  have below : (number : ℚ) / (1 : ℕ) < 2 ^ 64 := by
    rw [Nat.cast_one, div_one]
    exact_mod_cast fits
  rcases exists_isSized_ofRatio Nat.one_pos (below.trans (by norm_num)) with
    ⟨size, sized, reaches, notPassed⟩
  refine ⟨size, sized, reaches.trans ?_, notPassed 64 below⟩
  have middle : (2 : ℚ) ^ 64 - 2 ^ 10 = (2 ^ 64 - 1024 : ℕ) := by norm_num
  rw [Nat.cast_one, div_one, middle, Nat.cast_le]

/-- A duration below the limit has a number of seconds without sign, which reaches the limit exactly
from 1024 seconds below it on. -/
theorem exists_isSized_toSeconds {duration : Duration}
    (inRange : duration.nanoseconds < limit * second) :
    ∃ size, duration.toSeconds.IsSized size ∧
      (2 ^ 64 ≤ size ↔ 2 ^ 64 - 1024 ≤ duration.wholeSeconds) := by
  have whole : duration.wholeSeconds < limit := Nat.div_lt_of_lt_mul (by rwa [mul_comm])
  have rest : duration.subsecond < second := Nat.mod_lt _ (by decide)
  rcases exists_isSized_ofNat whole with ⟨seconds, sized, reaches, seconds_le⟩
  rcases IsSized.div (isSized_ofNat (rest.trans (by decide)))
    (isSized_ofNat (by decide : second < 2 * hiddenBit)) (Nat.cast_lt.mpr rest) with
    ⟨part, partSized, small⟩
  have part_nonneg := partSized.nonneg
  rcases IsSized.add sized partSized (by norm_num at seconds_le ⊢; linarith) with
    ⟨size, sumSized, sumReaches⟩
  refine ⟨size, sumSized, sumReaches.trans (Iff.trans ?_ reaches)⟩
  by_cases below : seconds < 2 ^ 64
  · -- The fraction is too small for the gap.
    have gap := sized.size_le_of_lt below
    refine iff_of_false (fun reached => ?_) (not_le_of_gt below)
    norm_num at gap reached
    linarith
  · have reached := not_lt.mp below
    refine iff_of_true ?_ reached
    norm_num at reached ⊢
    linarith

/-- Exactly the numbers that reach the limit are too large to be durations. -/
theorem ofSeconds?_eq_none_iff {value : Binary64} {size : ℚ} (sized : value.IsSized size) :
    ofSeconds? value = none ↔ 2 ^ 64 ≤ size := by
  have below_gap := sized.size_le_of_lt
  rcases sized with ⟨finite, rfl, sign, rfl⟩
  have reaches (bound : Nat) :
      bound * second * unit ≤ finite.magnitude * second ↔ (bound : ℚ) ≤ finite.size := by
    rw [mul_right_comm, Nat.mul_le_mul_right_iff (by decide), ← Nat.cast_le (α := ℚ), Nat.cast_mul,
      magnitude_cast, mul_le_mul_iff_left₀ unit_cast_pos]
  have keeps (bound : Nat) :
      finite.magnitude * second ≤ bound * second * unit ↔ finite.size ≤ bound := by
    rw [mul_right_comm, Nat.mul_le_mul_right_iff (by decide), ← Nat.cast_le (α := ℚ), Nat.cast_mul,
      magnitude_cast, mul_le_mul_iff_left₀ unit_cast_pos]
  have limitCast : ((limit : ℕ) : ℚ) = 2 ^ 64 := by norm_num [limit, UInt64.size]
  simp only [ofSeconds?, sign, Bool.false_eq_true, if_false, ite_eq_right_iff, reduceCtorEq,
    imp_false, not_lt]
  constructor
  · intro reached
    by_contra below
    have gap := below_gap (not_le.mp below)
    have short := nearestQuotient_le unit_pos ((keeps (2 ^ 64 - 2 ^ 11)).mpr (by
      norm_num at gap ⊢
      exact gap))
    have less : (2 ^ 64 - 2 ^ 11) * second < limit * second := by decide
    omega
  · intro reached
    exact le_nearestQuotient unit_pos ((reaches limit).mpr (limitCast ▸ reached))

theorem nanoseconds_lt_of_ofSeconds? {value : Binary64} {duration : Duration}
    (known : ofSeconds? value = some duration) : duration.nanoseconds < limit * second := by
  cases value with
  | notANumber pattern => cases known
  | infinite negative => cases known
  | finite value =>
      have positive : 0 < limit * second := by decide
      rw [ofSeconds?] at known
      generalize nearestQuotient _ _ = nanoseconds at known
      split at known
      · split at known
        · cases known
          exact positive
        · cases known
      · split at known
        · next below =>
          cases known
          exact below
        · cases known

/-- Written durations are below the limit. -/
theorem IsWritten.nanoseconds_lt {core : List Char} {duration : Duration}
    (written : IsWritten core duration) : duration.nanoseconds < limit * second := by
  have positive : 0 < second := by decide
  cases written with
  | bare written fits => exact Nat.mul_lt_mul_of_pos_right fits positive
  | milliseconds written blank fits =>
      have shorter : millisecond < second := by decide
      exact Nat.mul_lt_mul_of_lt_of_le fits shorter.le positive
  | seconds known written blank fits => exact Nat.mul_lt_mul_of_pos_right fits positive

end Duration

end Fleet
