import Fleet.Binary64.Arithmetic
import Mathlib.Algebra.Order.Field.Power
import Mathlib.Data.Rat.Floor
import Mathlib.Tactic.Linarith
import Mathlib.Tactic.Ring

/-!
# Rounding and order of binary floating-point numbers

The value nearest to a ratio lies between the multiples of its last place that enclose the ratio, so
that rounding passes over no such multiple. Whole numbers of 53 bits are exact, and a ratio that
is not just above a whole number has the same ceiling after rounding. All values are in one linear
order, in which different values have different places; the numeric order holds between numbers
only.
-/

namespace Fleet.Binary64

/-! ## Powers of two -/

theorem scale_div (exponent : ℤ) :
    ((Nat.pow 2 exponent.toNat : ℕ) : ℚ) / (Nat.pow 2 (-exponent).toNat : ℕ) = 2 ^ exponent := by
  rcases exponent.eq_nat_or_neg with ⟨count, rfl | rfl⟩
  · simp
  · simp

theorem scale_of_nonneg {exponent : ℤ} (nonneg : 0 ≤ exponent) :
    ((Nat.pow 2 exponent.toNat : ℕ) : ℚ) = 2 ^ exponent := by
  obtain ⟨count, rfl⟩ := Int.eq_ofNat_of_zero_le nonneg
  simp

theorem scale_pos (count : Nat) : (0 : ℚ) < (Nat.pow 2 count : ℕ) :=
  Nat.cast_pos.mpr (Nat.pow_pos (by decide))

section Scaled

variable {numerator denominator : Nat} (positive : 0 < denominator) (count : Nat) (exponent : ℤ)

include positive

/-- A multiple of a power of two compares with a ratio as the scaled numbers do. -/
theorem scaled_le_iff :
    count * (denominator * Nat.pow 2 exponent.toNat) ≤ numerator * Nat.pow 2 (-exponent).toNat ↔
      count * (2 : ℚ) ^ exponent ≤ numerator / denominator := by
  have divisor : (0 : ℚ) < denominator := Nat.cast_pos.mpr positive
  rw [← scale_div, le_div_iff₀ divisor, mul_div_assoc', div_mul_eq_mul_div,
    div_le_iff₀ (scale_pos _), mul_assoc, mul_comm (Nat.cast (Nat.pow 2 exponent.toNat))]
  exact_mod_cast Iff.rfl

theorem le_scaled_iff :
    numerator * Nat.pow 2 (-exponent).toNat ≤ count * (denominator * Nat.pow 2 exponent.toNat) ↔
      (numerator : ℚ) / denominator ≤ count * (2 : ℚ) ^ exponent := by
  have divisor : (0 : ℚ) < denominator := Nat.cast_pos.mpr positive
  rw [← scale_div, div_le_iff₀ divisor, mul_div_assoc', div_mul_eq_mul_div,
    le_div_iff₀ (scale_pos _), mul_assoc (count : ℚ),
    mul_comm (Nat.cast (Nat.pow 2 exponent.toNat))]
  exact_mod_cast Iff.rfl

end Scaled

theorem log2_bounds {number : Nat} (positive : 0 < number) :
    (2 : ℚ) ^ (number.log2 : ℤ) ≤ number ∧ (number : ℚ) < 2 ^ ((number.log2 : ℤ) + 1) := by
  refine ⟨?_, ?_⟩
  · exact_mod_cast Nat.log2_self_le (Nat.ne_of_gt positive)
  · exact_mod_cast Nat.lt_log2_self

/-- The exponent of a ratio is that of the greatest power of two that is not above it. -/
theorem floorLog2_bounds {numerator denominator : Nat} (above : 0 < numerator)
    (positive : 0 < denominator) :
    (2 : ℚ) ^ floorLog2 numerator denominator ≤ numerator / denominator ∧
      (numerator : ℚ) / denominator < 2 ^ (floorLog2 numerator denominator + 1) := by
  have divisor : (0 : ℚ) < denominator := Nat.cast_pos.mpr positive
  obtain ⟨numerator_ge, numerator_lt⟩ := log2_bounds above
  obtain ⟨denominator_ge, denominator_lt⟩ := log2_bounds positive
  have condition := @scaled_le_iff numerator denominator positive 1
    ((numerator.log2 : ℤ) - denominator.log2)
  simp only [one_mul, Nat.cast_one] at condition
  simp only [floorLog2, condition]
  split
  · next fits =>
      refine ⟨fits, ?_⟩
      rw [div_lt_iff₀ divisor]
      calc (numerator : ℚ) < 2 ^ ((numerator.log2 : ℤ) + 1) := numerator_lt
        _ = 2 ^ ((numerator.log2 : ℤ) - denominator.log2 + 1) * 2 ^ (denominator.log2 : ℤ) := by
          rw [← zpow_add₀ two_ne_zero]
          congr 1
          ring
        _ ≤ 2 ^ ((numerator.log2 : ℤ) - denominator.log2 + 1) * denominator := by gcongr
  · next exceeds =>
      rw [sub_add_cancel]
      refine ⟨?_, lt_of_not_ge exceeds⟩
      rw [le_div_iff₀ divisor]
      calc (2 : ℚ) ^ ((numerator.log2 : ℤ) - denominator.log2 - 1) * denominator
          ≤ 2 ^ ((numerator.log2 : ℤ) - denominator.log2 - 1) *
              2 ^ ((denominator.log2 : ℤ) + 1) := by gcongr
        _ = 2 ^ (numerator.log2 : ℤ) := by
          rw [← zpow_add₀ two_ne_zero]
          congr 1
          ring
        _ ≤ numerator := numerator_ge

theorem floorLog2_lt_iff {numerator denominator : Nat} (above : 0 < numerator)
    (positive : 0 < denominator) {exponent : ℤ} :
    floorLog2 numerator denominator < exponent ↔ (numerator : ℚ) / denominator < 2 ^ exponent := by
  rcases floorLog2_bounds above positive with ⟨ratio_ge, ratio_lt⟩
  constructor
  · intro less
    exact ratio_lt.trans_le (zpow_le_zpow_right₀ one_le_two less)
  · intro less
    exact (zpow_lt_zpow_iff_right₀ one_lt_two).mp (ratio_ge.trans_lt less)

/-! ## Rounding -/

/-- Rounding to the nearest number passes over no number. -/
theorem nearestQuotient_le {numerator denominator bound : Nat} (positive : 0 < denominator)
    (atMost : numerator ≤ bound * denominator) :
    nearestQuotient numerator denominator ≤ bound := by
  have whole := Nat.div_add_mod numerator denominator
  have quotient : numerator / denominator ≤ bound := Nat.div_le_of_le_mul (by linarith)
  simp only [nearestQuotient]
  split
  · next up =>
      -- A remainder is left, so that the quotient is less than the bound.
      apply Nat.lt_of_le_of_ne quotient
      intro same
      rw [same, mul_comm] at whole
      omega
  · exact quotient

theorem le_nearestQuotient {numerator denominator bound : Nat} (positive : 0 < denominator)
    (atLeast : bound * denominator ≤ numerator) :
    bound ≤ nearestQuotient numerator denominator := by
  have quotient : bound ≤ numerator / denominator := (Nat.le_div_iff_mul_le positive).mpr atLeast
  simp only [nearestQuotient]
  split <;> omega

/-- Rounding passes a number at the middle between it and the next one, and on a tie goes to the
even one of the two. -/
theorem nearestQuotient_le_iff {numerator denominator bound : Nat} (positive : 0 < denominator) :
    nearestQuotient numerator denominator ≤ bound ↔
      2 * numerator < (2 * bound + 1) * denominator ∨
        2 * numerator ≤ (2 * bound + 1) * denominator ∧ bound % 2 = 0 := by
  have whole := Nat.div_add_mod numerator denominator
  have remainder := Nat.mod_lt numerator positive
  have middle : (2 * bound + 1) * denominator = 2 * (denominator * bound) + denominator := by ring
  rw [middle]
  simp only [nearestQuotient]
  generalize numerator / denominator = quotient at *
  generalize numerator % denominator = rest at *
  rcases lt_trichotomy quotient bound with below | rfl | above
  · have steps : denominator * (quotient + 1) ≤ denominator * bound := Nat.mul_le_mul_left _ below
    rw [mul_add_one] at steps
    split <;> omega
  · split <;> omega
  · have steps : denominator * (bound + 1) ≤ denominator * quotient := Nat.mul_le_mul_left _ above
    rw [mul_add_one] at steps
    split <;> omega

/-- Rounding takes the ratio to at most so many steps: it lies before the middle to the next one, or
at that middle and the number of steps is even. -/
def RoundsWithin (ratio step : ℚ) (bound : Nat) : Prop :=
  2 * ratio < (2 * bound + 1) * step ∨ 2 * ratio ≤ (2 * bound + 1) * step ∧ bound % 2 = 0

theorem nearestQuotient_scaled_le_iff {numerator denominator : Nat} (positive : 0 < denominator)
    (bound : Nat) (exponent : ℤ) :
    nearestQuotient (numerator * Nat.pow 2 (-exponent).toNat)
        (denominator * Nat.pow 2 exponent.toNat) ≤ bound ↔
      RoundsWithin (numerator / denominator) (2 ^ exponent) bound := by
  have scaled : 0 < denominator * Nat.pow 2 exponent.toNat :=
    Nat.mul_pos positive (Nat.pow_pos (by decide))
  have reaches := @scaled_le_iff (2 * numerator) denominator positive (2 * bound + 1) exponent
  have keeps := @le_scaled_iff (2 * numerator) denominator positive (2 * bound + 1) exponent
  push_cast [mul_div_assoc] at reaches keeps
  rw [nearestQuotient_le_iff scaled, ← mul_assoc, ← not_le, reaches, keeps, not_le, RoundsWithin]

/-- The size of a finite value. -/
def Finite.size (value : Finite) : ℚ := value.mantissa * 2 ^ value.exponent

theorem unit_cast : (unit : ℚ) = 2 ^ (-leastExponent) := by
  have exponent : 1074 = (-leastExponent).toNat := rfl
  -- Unfolding by equation would evaluate the power.
  delta unit
  rw [exponent, scale_of_nonneg (by decide)]

theorem unit_pos : 0 < unit := by
  have power : (0 : ℚ) < 2 ^ (-leastExponent) := zpow_pos two_pos _
  rwa [← unit_cast, Nat.cast_pos] at power

theorem unit_cast_pos : (0 : ℚ) < unit :=
  Nat.cast_pos.mpr unit_pos

theorem magnitude_cast (value : Finite) : (value.magnitude : ℚ) = value.size * unit := by
  have least := value.canonical.2.1
  rw [Finite.magnitude, Nat.cast_mul, scale_of_nonneg (by omega), Finite.size, unit_cast,
    mul_assoc, ← zpow_add₀ two_ne_zero, sub_eq_add_neg]

theorem finite_mul (left right : Finite) :
    finite left * finite right =
      ofRatio (left.negative != right.negative) (left.magnitude * right.magnitude) (unit * unit) :=
  rfl

theorem magnitude_mul_div (left right : Finite) :
    ((left.magnitude * right.magnitude : ℕ) : ℚ) / (unit * unit : ℕ) = left.size * right.size := by
  rw [Nat.cast_mul, Nat.cast_mul, magnitude_cast, magnitude_cast, mul_mul_mul_comm,
    mul_div_cancel_right₀ _ (mul_ne_zero unit_cast_pos.ne' unit_cast_pos.ne')]

/-- Packing a mantissa of 53 bits, or one that was carried beyond them, or a shorter one at the
least exponent, keeps its value. -/
theorem pack_eq_finite (negative : Bool) {mantissa : Nat} {exponent : ℤ}
    (least : leastExponent ≤ exponent) (greatest : exponent < greatestExponent)
    (above : hiddenBit ≤ mantissa ∨ exponent = leastExponent)
    (notAbove : mantissa ≤ 2 * hiddenBit) :
    ∃ value : Finite, pack negative mantissa exponent = .finite value ∧
      value.negative = negative ∧ value.size = mantissa * 2 ^ exponent := by
  by_cases carried : mantissa = 2 * hiddenBit
  · have canonical : Canonical hiddenBit (exponent + 1) :=
      ⟨by decide, by omega, by omega, Or.inl (Nat.le_refl _)⟩
    refine ⟨⟨negative, hiddenBit, exponent + 1, canonical⟩, dif_pos ⟨carried, canonical⟩, rfl, ?_⟩
    rw [Finite.size, zpow_add_one₀ two_ne_zero, carried, Nat.cast_mul, Nat.cast_two]
    ring
  · have canonical : Canonical mantissa exponent :=
      ⟨by omega, least, by omega, above⟩
    refine ⟨⟨negative, mantissa, exponent, canonical⟩, ?_, rfl, rfl⟩
    rw [pack, dif_neg (fun both => carried both.1), dif_pos canonical]

/-- The exponent of the last place of the value nearest to a ratio. -/
def lastPlace (numerator denominator : Nat) : ℤ :=
  Max.max (floorLog2 numerator denominator - 52) leastExponent

theorem hiddenBit_cast : ((hiddenBit : ℕ) : ℚ) = 2 ^ (52 : ℤ) :=
  @scale_of_nonneg 52 (by decide)

/-- The value is as many steps of its last place as are nearest to the ratio. -/
structure Finite.IsNearest (value : Finite) (ratio : ℚ) (mantissa : Nat) (place : ℤ) : Prop where
  size : value.size = mantissa * 2 ^ place
  short : mantissa ≤ 2 * hiddenBit
  long : hiddenBit ≤ mantissa ∨ place = leastExponent
  limits : ∀ bound, mantissa ≤ bound ↔ RoundsWithin ratio (2 ^ place) bound

/-- A ratio that is not beyond the range of the format is rounded to the nearest multiple of its
last place. -/
theorem ofRatio_eq_nearest (negative : Bool) {numerator denominator : Nat}
    (above : 0 < numerator) (positive : 0 < denominator)
    (greatest : floorLog2 numerator denominator ≤ 1022) :
    ∃ (value : Finite) (mantissa : Nat), ofRatio negative numerator denominator = .finite value ∧
      value.negative = negative ∧
      value.IsNearest (numerator / denominator) mantissa (lastPlace numerator denominator) := by
  obtain ⟨ratio_ge, ratio_lt⟩ := floorLog2_bounds above positive
  have place : (if floorLog2 numerator denominator - 52 < leastExponent then leastExponent
      else floorLog2 numerator denominator - 52) = lastPlace numerator denominator := by
    rw [lastPlace]
    split <;> omega
  simp only [ofRatio, if_neg (Nat.ne_of_gt above), place]
  have limits (bound : Nat) :=
    @nearestQuotient_scaled_le_iff numerator denominator positive bound
      (lastPlace numerator denominator)
  generalize nearestQuotient _ _ = mantissa at *
  have step : (0 : ℚ) < 2 ^ lastPlace numerator denominator := zpow_pos two_pos _
  have below_carry : mantissa ≤ 2 * hiddenBit := by
    refine (limits _).mpr (Or.inl ?_)
    have covered : (2 : ℚ) ^ (floorLog2 numerator denominator + 1) ≤
        2 ^ (53 + lastPlace numerator denominator) :=
      zpow_le_zpow_right₀ one_le_two (by rw [lastPlace]; omega)
    rw [zpow_add₀ two_ne_zero 53] at covered
    rw [Nat.cast_mul, hiddenBit_cast]
    norm_num at covered ⊢
    linarith
  have above_hidden :
      hiddenBit ≤ mantissa ∨ lastPlace numerator denominator = leastExponent := by
    rw [or_iff_not_imp_right]
    intro other
    have natural : floorLog2 numerator denominator = 52 + lastPlace numerator denominator := by
      rw [lastPlace] at other ⊢
      omega
    rw [natural, zpow_add₀ two_ne_zero, ← hiddenBit_cast] at ratio_ge
    by_contra short
    have shorter := (limits (hiddenBit - 1)).mp (by omega)
    rw [RoundsWithin, Nat.cast_pred (by decide)] at shorter
    rcases shorter with less | ⟨less, -⟩ <;> linarith
  have least_place : leastExponent ≤ lastPlace numerator denominator := by
    rw [lastPlace]
    omega
  have greatest_place : lastPlace numerator denominator < greatestExponent := by
    simp only [lastPlace, leastExponent, greatestExponent]
    omega
  obtain ⟨value, packed, sign, size⟩ :=
    pack_eq_finite negative least_place greatest_place above_hidden below_carry
  exact ⟨value, mantissa, packed, sign, size, below_carry, above_hidden, limits⟩

section Powers

variable {value : Finite} {numerator denominator mantissa power : Nat}
  (nearest : value.IsNearest (numerator / denominator) mantissa (lastPlace numerator denominator))
  (above : 0 < numerator) (positive : 0 < denominator)
include nearest above positive

/-- Rounding passes no power of two. -/
theorem Finite.IsNearest.size_le_power (below : (numerator : ℚ) / denominator < 2 ^ power) :
    value.size ≤ 2 ^ power := by
  rw [← zpow_natCast, ← floorLog2_lt_iff above positive] at below
  have place : lastPlace numerator denominator ≤ (power : ℤ) - 53 := by
    simp only [lastPlace, leastExponent]
    omega
  calc value.size ≤ (2 * hiddenBit : ℕ) * 2 ^ ((power : ℤ) - 53) := by
        rw [nearest.size]
        have short := nearest.short
        gcongr
        exact one_le_two
    _ = 2 ^ power := by
        rw [Nat.cast_mul, hiddenBit_cast, ← zpow_natCast, zpow_sub₀ two_ne_zero]
        norm_num
        ring

theorem Finite.IsNearest.power_le_size (reached : 2 ^ power ≤ (numerator : ℚ) / denominator) :
    2 ^ power ≤ value.size := by
  rw [← zpow_natCast, ← not_lt, ← floorLog2_lt_iff above positive, not_lt] at reached
  have place : (power : ℤ) - 52 ≤ lastPlace numerator denominator := by
    simp only [lastPlace, leastExponent]
    omega
  have hidden : hiddenBit ≤ mantissa :=
    nearest.long.resolve_right (by simp only [leastExponent]; omega)
  calc (2 : ℚ) ^ power = (hiddenBit : ℕ) * 2 ^ ((power : ℤ) - 52) := by
        rw [hiddenBit_cast, ← zpow_natCast, ← zpow_add₀ two_ne_zero, add_sub_cancel]
    _ ≤ value.size := by
        rw [nearest.size]
        gcongr
        exact one_le_two

end Powers

/-- The value nearest to a ratio within the range of the format. Rounding passes over no multiple of
the last place. -/
theorem ofRatio_eq_finite (negative : Bool) {numerator denominator : Nat}
    (above : 0 < numerator) (positive : 0 < denominator)
    (least : -1022 ≤ floorLog2 numerator denominator)
    (greatest : floorLog2 numerator denominator ≤ 1022) :
    ∃ value : Finite, ofRatio negative numerator denominator = .finite value ∧
      value.negative = negative ∧
      ∀ count : Nat,
        ((numerator : ℚ) / denominator ≤ count * 2 ^ (floorLog2 numerator denominator - 52) →
          value.size ≤ count * 2 ^ (floorLog2 numerator denominator - 52)) ∧
        ((count : ℚ) * 2 ^ (floorLog2 numerator denominator - 52) ≤ numerator / denominator →
          count * 2 ^ (floorLog2 numerator denominator - 52) ≤ value.size) := by
  have place : lastPlace numerator denominator = floorLog2 numerator denominator - 52 := by
    simp only [lastPlace, leastExponent]
    omega
  obtain ⟨value, mantissa, rounded, sign, size, -, -, limits⟩ :=
    ofRatio_eq_nearest negative above positive greatest
  rw [place] at size limits
  have step : (0 : ℚ) < 2 ^ (floorLog2 numerator denominator - 52) := zpow_pos two_pos _
  refine ⟨value, rounded, sign, fun count => ⟨fun ratio_le => ?_, fun le_ratio => ?_⟩⟩
  · have reached : mantissa ≤ count := (limits count).mpr (Or.inl (by linarith))
    rw [size]
    gcongr
  · have reached : count ≤ mantissa := by
      by_contra short
      rcases Nat.exists_eq_add_one.mpr (by omega : 0 < count) with ⟨less, rfl⟩
      rw [Nat.cast_succ] at le_ratio
      rcases (limits less).mp (by omega) with shorter | ⟨shorter, -⟩ <;> linarith
    rw [size]
    gcongr

/-! ## Whole numbers -/

/-- A whole number is a multiple of the last place of a number that is not too large. -/
theorem whole_places (number : Nat) {log : ℤ} (notAbove : log ≤ 52) :
    ((number * Nat.pow 2 (52 - log).toNat : ℕ) : ℚ) * 2 ^ (log - 52) = number := by
  rw [Nat.cast_mul, scale_of_nonneg (by omega), mul_assoc, ← zpow_add₀ two_ne_zero]
  simp

/-- The exponent of a positive whole number is less than the number of its bits. -/
theorem floorLog2_whole {number bits : Nat} (positive : 0 < number) (fits : number < 2 ^ bits) :
    0 ≤ floorLog2 number 1 ∧ floorLog2 number 1 < bits := by
  rw [← not_lt, floorLog2_lt_iff positive Nat.one_pos, floorLog2_lt_iff positive Nat.one_pos,
    Nat.cast_one, div_one, not_lt, zpow_zero]
  exact ⟨Nat.one_le_cast.mpr positive, by exact_mod_cast fits⟩

/-- A whole number of at most 53 bits is exact. -/
theorem ofNat_eq_finite {number : Nat} (positive : 0 < number) (fits : number < 2 * hiddenBit) :
    ∃ value : Finite, ofNat number = .finite value ∧ value.negative = false ∧
      value.size = number := by
  have limit : number < 2 ^ 53 := fits
  rcases floorLog2_whole positive limit with ⟨log_nonneg, log_lt⟩
  rcases ofRatio_eq_finite false positive Nat.one_pos (by omega) (by omega) with
    ⟨value, rounded, sign, encloses⟩
  refine ⟨value, rounded, sign, ?_⟩
  have enclosed := encloses (number * Nat.pow 2 (52 - floorLog2 number 1).toNat)
  rw [whole_places number (Int.le_of_lt_add_one log_lt), Nat.cast_one, div_one] at enclosed
  exact le_antisymm (enclosed.1 le_rfl) (enclosed.2 le_rfl)

/-- A positive whole number of at most 64 bits is rounded to a value that is not zero. -/
theorem exists_ofNat {number : Nat} (positive : 0 < number) (fits : number < UInt64.size) :
    ∃ value : Finite, ofNat number = .finite value ∧ value.mantissa ≠ 0 := by
  have limit : number < 2 ^ 64 := fits
  rcases floorLog2_whole positive limit with ⟨log_nonneg, log_lt⟩
  rcases ofRatio_eq_finite false positive Nat.one_pos (by omega) (by omega) with
    ⟨value, rounded, -, encloses⟩
  refine ⟨value, rounded, ?_⟩
  intro none
  have place : (2 : ℚ) ^ (floorLog2 number 1 - 52) ≤ 2 ^ floorLog2 number 1 :=
    zpow_le_zpow_right₀ one_le_two (by omega)
  have reached : (2 : ℚ) ^ floorLog2 number 1 ≤ (number : ℚ) / (1 : ℕ) :=
    (floorLog2_bounds positive Nat.one_pos).1
  have enclosed := (encloses 1).2 (by simpa using place.trans reached)
  rw [Finite.size, none, Nat.cast_zero, zero_mul, Nat.cast_one, one_mul] at enclosed
  exact not_le_of_gt (zpow_pos two_pos _) enclosed

theorem ceiling_eq_ceil {value : Finite} (positive : value.negative = false) :
    value.ceiling = ⌈value.size⌉ := by
  have units : (value.units : ℚ) / unit = value.size := by
    rw [Finite.units, positive, if_neg Bool.false_ne_true, Int.cast_natCast, magnitude_cast,
      mul_div_cancel_right₀ _ unit_cast_pos.ne']
  rw [← units, Rat.ceil_intCast_div_natCast, Finite.ceiling]

/-- A ratio that is at most a whole number, and not just above the number before it, is rounded to
a value whose ceiling is that number. -/
theorem ceilingWord_ofRatio {numerator denominator whole : Nat} (positive : 0 < denominator)
    (whole_pos : 0 < whole) (small : whole ≤ 1024)
    (atLeast : (whole : ℚ) - 1 + 2 ^ (-42 : ℤ) ≤ numerator / denominator)
    (atMost : (numerator : ℚ) / denominator ≤ whole) :
    (ofRatio false numerator denominator).ceilingWord = whole := by
  have one_le : (1 : ℚ) ≤ whole := Nat.one_le_cast.mpr whole_pos
  have ratio_ge : (2 : ℚ) ^ (-42 : ℤ) ≤ numerator / denominator := by linarith
  have ratio_le : (numerator : ℚ) / denominator ≤ 2 ^ (10 : ℤ) :=
    atMost.trans (by exact_mod_cast small)
  have above : 0 < numerator := by
    have ratio_pos : (0 : ℚ) < numerator / denominator := (zpow_pos two_pos _).trans_le ratio_ge
    refine Nat.pos_of_ne_zero fun none => ?_
    simp [none] at ratio_pos
  have least : -42 ≤ floorLog2 numerator denominator := by
    rwa [← not_lt, floorLog2_lt_iff above positive, not_lt]
  have greatest : floorLog2 numerator denominator < 11 :=
    (floorLog2_lt_iff above positive).mpr (ratio_le.trans_lt (by norm_num))
  obtain ⟨value, rounded, sign, encloses⟩ := ofRatio_eq_finite false above positive
    (by omega) (by omega)
  generalize floorLog2 numerator denominator = log at *
  have notAbove : log ≤ 52 := by omega
  have size_le : value.size ≤ whole := by
    have enclosed := (encloses (whole * Nat.pow 2 (52 - log).toNat)).1
    rw [whole_places whole notAbove] at enclosed
    exact enclosed atMost
  have lt_size : (whole : ℚ) - 1 < value.size := by
    -- The first number after the whole one before is still not above the ratio.
    have enclosed := (encloses ((whole - 1) * Nat.pow 2 (52 - log).toNat + 1)).2
    rw [Nat.cast_succ, add_one_mul, whole_places _ notAbove, Nat.cast_pred whole_pos] at enclosed
    have place : (2 : ℚ) ^ (log - 52) ≤ 2 ^ (-42 : ℤ) :=
      zpow_le_zpow_right₀ one_le_two (by omega)
    have place_pos : (0 : ℚ) < 2 ^ (log - 52) := zpow_pos two_pos _
    linarith [enclosed ((add_le_add le_rfl place).trans atLeast)]
  have ceiling : value.ceiling = whole := by
    rw [ceiling_eq_ceil sign, Int.ceil_eq_iff, Int.cast_natCast]
    exact ⟨lt_size, size_le⟩
  have greatestWord : Int64.maxValue.toInt = 9223372036854775807 := by decide
  have leastWord : Int64.minValue.toInt = -9223372036854775808 := by decide
  rw [rounded, ceilingWord, ceiling, greatestWord, leastWord]
  omega

/-! ## Operations that give numbers -/

theorem isNaN_pack (negative : Bool) (mantissa : Nat) (exponent : ℤ) :
    (pack negative mantissa exponent).isNaN = false := by
  rw [pack]
  split
  · rfl
  · split <;> rfl

theorem isNaN_ofRatio (negative : Bool) (numerator denominator : Nat) :
    (ofRatio negative numerator denominator).isNaN = false := by
  rw [ofRatio]
  split
  · rfl
  · apply isNaN_pack

/-- A sum with a finite value is a number, also where it exceeds the range. -/
theorem isNaN_add_finite {left : Binary64} (number : left.isNaN = false) (right : Finite) :
    (left + .finite right).isNaN = false := by
  change (add left (.finite right)).isNaN = false
  cases left with
  | notANumber pattern => cases number
  | infinite negative => rfl
  | finite left =>
      rw [add]
      split
      · rfl
      · apply isNaN_ofRatio

theorem isNaN_div_finite {left : Binary64} (number : left.isNaN = false) {right : Finite}
    (nonzero : right.mantissa ≠ 0) : (left / .finite right).isNaN = false := by
  change (div left (.finite right)).isNaN = false
  cases left with
  | notANumber pattern => cases number
  | infinite negative => rfl
  | finite left =>
      rw [div, if_neg nonzero]
      apply isNaN_ofRatio

/-! ## The total order -/

instance : Std.TransCmp totalCompare :=
  inferInstanceAs (Std.TransCmp (compareLex _ _))

/-- Values in canonical form with the same magnitude have the same exponent. -/
theorem exponent_le_of_magnitude {left right : Finite} (same : left.magnitude = right.magnitude) :
    right.exponent ≤ left.exponent := by
  by_contra less
  have least := left.canonical.2.1
  -- The greater exponent is not the least one, so that its mantissa has 53 bits.
  have hidden : hiddenBit ≤ right.mantissa := right.canonical.2.2.2.resolve_right (by omega)
  have short := left.canonical.1
  have steps : (right.exponent - leastExponent).toNat =
      (left.exponent - leastExponent).toNat + (right.exponent - left.exponent - 1).toNat + 1 := by
    omega
  have scale : 0 < (2 : ℕ) ^ (left.exponent - leastExponent).toNat := Nat.two_pow_pos _
  have extra : 1 ≤ (2 : ℕ) ^ (right.exponent - left.exponent - 1).toNat := Nat.one_le_two_pow
  have longer : 2 * hiddenBit * 2 ^ (left.exponent - leastExponent).toNat ≤ right.magnitude := by
    rw [Finite.magnitude, steps, Nat.pow_eq, pow_succ, pow_add]
    calc 2 * hiddenBit * 2 ^ (left.exponent - leastExponent).toNat
        = hiddenBit * (2 ^ (left.exponent - leastExponent).toNat * 1 * 2) := by ring
      _ ≤ _ := by gcongr
  have shorter : left.magnitude < 2 * hiddenBit * 2 ^ (left.exponent - leastExponent).toNat :=
    Nat.mul_lt_mul_of_pos_right short scale
  omega

/-- Sign and magnitude determine the canonical form. -/
theorem finite_eq_of_magnitude {left right : Finite} (sign : left.negative = right.negative)
    (same : left.magnitude = right.magnitude) : left = right := by
  have exponent : left.exponent = right.exponent :=
    le_antisymm (exponent_le_of_magnitude same.symm) (exponent_le_of_magnitude same)
  have mantissa : left.mantissa = right.mantissa := by
    rw [Finite.magnitude, Finite.magnitude, exponent] at same
    exact Nat.eq_of_mul_eq_mul_right (Nat.pow_pos (by decide)) same
  cases left
  cases right
  simp only [Finite.mk.injEq]
  exact ⟨sign, mantissa, exponent⟩

/-- Values at the same place in the total order are the same. -/
theorem eq_of_totalCompare {left right : Binary64} (same : left.totalCompare right = .eq) :
    left = right := by
  simp only [totalCompare, compareLex, compareOn, Ordering.then_eq_eq, compare_eq_iff_eq] at same
  rcases same with ⟨kinds, places, signs⟩
  rcases left with ⟨_ | _, _, _⟩ | (_ | _) | left <;>
    rcases right with ⟨_ | _, _, _⟩ | (_ | _) | right <;> try first | rfl | cases kinds
  · simpa [place] using places
  · simpa [place] using places
  · have sign : left.negative = right.negative := by
      simp only [placeOfSign] at signs
      revert signs
      cases left.negative <;> cases right.negative <;> decide
    refine congrArg finite (finite_eq_of_magnitude sign ?_)
    simp only [place, Finite.units, sign] at places
    split at places <;> omega

example : [quiet true, .infinite true, zero true, zero false, .infinite false, quiet false].Pairwise
    fun left right => left.totalCompare right = .lt := by
  decide

/-! ## The numeric order -/

protected theorem le_iff {left right : Binary64} :
    left.le right = true ↔
      left.isNaN = false ∧ right.isNaN = false ∧ right.lt left = false := by
  cases left <;> cases right <;> simp [le, isNaN]

protected theorem lt_iff {left right : Binary64} :
    left.lt right = true ↔
      left.isNaN = false ∧ right.isNaN = false ∧ right.le left = false := by
  cases left <;> cases right <;> simp [le, lt, isNaN]

protected theorem le_of_lt {left right : Binary64} (below : left.lt right = true) :
    left.le right = true := by
  cases left <;> cases right <;> simp_all [le, lt]
  omega

protected theorem le_trans {first second third : Binary64} (left : first.le second = true)
    (right : second.le third = true) : first.le third = true := by
  cases first <;> cases second <;> cases third <;> simp_all [le, lt]
  all_goals grind

protected theorem le_refl {value : Binary64} (number : value.isNaN = false) :
    value.le value = true := by
  have irreflexive : value.lt value = false := by cases value <;> simp [lt]
  exact Binary64.le_iff.mpr ⟨number, number, irreflexive⟩

/-- A number is clamped into the range. -/
theorem clamp_within {value lower upper : Binary64} (number : value.isNaN = false)
    (order : lower.le upper = true) :
    lower.le (value.clamp lower upper) = true ∧ (value.clamp lower upper).le upper = true := by
  rcases Binary64.le_iff.mp order with ⟨lowerNumber, upperNumber, -⟩
  rw [clamp]
  split
  · exact ⟨Binary64.le_refl lowerNumber, order⟩
  · next notBelow =>
    split
    · exact ⟨order, Binary64.le_refl upperNumber⟩
    · next notAbove =>
      rw [Bool.not_eq_true] at notBelow notAbove
      exact ⟨Binary64.le_iff.mpr ⟨lowerNumber, number, notBelow⟩,
        Binary64.le_iff.mpr ⟨number, upperNumber, notAbove⟩⟩

end Fleet.Binary64
