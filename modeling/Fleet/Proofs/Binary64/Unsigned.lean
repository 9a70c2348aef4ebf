import Fleet.Proofs.Binary64

/-!
# Values without sign

Finite values without sign are compared by their sizes. Products of values without sign have none,
and what has none is a finite value once it is held under one, even an infinity or no number.
-/

namespace Fleet.Binary64

/-- The value is finite and without sign, and has a size. -/
def IsSized (value : Binary64) (size : ℚ) : Prop :=
  ∃ finite : Finite, value = .finite finite ∧ finite.negative = false ∧ finite.size = size

theorem IsSized.nonneg {value : Binary64} {size : ℚ} (sized : value.IsSized size) : 0 ≤ size := by
  rcases sized with ⟨finite, -, -, rfl⟩
  exact mul_nonneg (Nat.cast_nonneg _) (zpow_nonneg zero_le_two _)

theorem isSized_zero : (zero false).IsSized 0 :=
  ⟨_, rfl, rfl, by rw [Finite.size, Nat.cast_zero, zero_mul]⟩

theorem units_of_unsigned {value : Finite} (unsigned : value.negative = false) :
    value.units = value.magnitude := by
  rw [Finite.units, unsigned, if_neg Bool.false_ne_true]

theorem lt_iff_of_isSized {left right : Binary64} {first second : ℚ}
    (leftSized : left.IsSized first) (rightSized : right.IsSized second) :
    left.lt right = true ↔ first < second := by
  rcases leftSized with ⟨left, rfl, leftSign, rfl⟩
  rcases rightSized with ⟨right, rfl, rightSign, rfl⟩
  rw [lt, decide_eq_true_eq, units_of_unsigned leftSign, units_of_unsigned rightSign, Nat.cast_lt,
    ← Nat.cast_lt (α := ℚ), magnitude_cast, magnitude_cast, mul_lt_mul_iff_left₀ unit_cast_pos]

theorem le_iff_of_isSized {left right : Binary64} {first second : ℚ}
    (leftSized : left.IsSized first) (rightSized : right.IsSized second) :
    left.le right = true ↔ first ≤ second := by
  have compared := lt_iff_of_isSized rightSized leftSized
  rcases leftSized with ⟨left, rfl, -⟩
  rcases rightSized with ⟨right, rfl, -⟩
  rw [Binary64.le_iff, ← not_lt, ← compared, Bool.not_eq_true]
  exact ⟨fun compared => compared.2.2, fun compared => ⟨rfl, rfl, compared⟩⟩

/-! ## What has no sign -/

theorem isNegative_ofRatio (negative : Bool) (numerator denominator : Nat) :
    (ofRatio negative numerator denominator).isNegative = negative := by
  have packed (mantissa : Nat) (exponent : ℤ) :
      (pack negative mantissa exponent).isNegative = negative := by
    rw [pack]
    split
    · rfl
    · split <;> rfl
  rw [ofRatio]
  split
  · rfl
  · exact packed _ _

theorem isNegative_mul {left right : Binary64} (first : left.isNegative = false)
    (second : right.isNegative = false) : (left * right).isNegative = false := by
  change (mul left right).isNegative = false
  rcases left with _ | left | left <;> rcases right with _ | right | right <;>
    simp only [isNegative] at first second <;> simp only [mul, first, second, bne_self_eq_false]
  case finite.finite => exact isNegative_ofRatio _ _ _
  all_goals first | rfl | split <;> rfl

theorem isNegative_of_not_lt_one {value : Binary64} (notBelow : value.lt 1 = false) :
    value.isNegative = false := by
  have one : (1 : Binary64).IsSized 1 := ⟨⟨false, hiddenBit, -52, by decide⟩, by decide, rfl, by
    rw [Finite.size, hiddenBit_cast, ← zpow_add₀ two_ne_zero]
    rfl⟩
  rcases one with ⟨one, same, sign, size⟩
  rw [same] at notBelow
  rcases value with _ | negative | value
  · rfl
  · exact notBelow
  · by_contra negative
    rw [isNegative, Bool.not_eq_false] at negative
    have positive : 0 < one.magnitude := by
      rw [← Nat.cast_pos (α := ℚ), magnitude_cast, size, one_mul]
      exact unit_cast_pos
    rw [lt, decide_eq_false_iff_not, units_of_unsigned sign, Finite.units, negative, if_pos rfl]
      at notBelow
    omega

/-- What is not negative and held under a ceiling has a size, also if it is not a number. It reaches
a bound if the ceiling does and it is not below the bound. -/
theorem exists_isSized_min {value ceiling bound : Binary64} {greatest limit : ℚ}
    (unsigned : value.isNegative = false) (ceilingSized : ceiling.IsSized greatest)
    (boundSized : bound.IsSized limit) :
    ∃ size, (value.min ceiling).IsSized size ∧
      (limit ≤ size ↔ limit ≤ greatest ∧ value.lt bound = false) := by
  have compare {size : ℚ} (sized : value.IsSized size) :
      value.lt bound = false ↔ limit ≤ size := by
    rw [← Bool.not_eq_true, lt_iff_of_isSized sized boundSized, not_lt]
  have exceeds {size : ℚ} (sized : value.IsSized size) := lt_iff_of_isSized ceilingSized sized
  have notNaN : ceiling.isNaN = false := by
    rcases ceilingSized with ⟨ceiling, rfl, -⟩
    rfl
  rcases value with _ | negative | value
  · exact ⟨greatest, ceilingSized, (and_iff_left rfl).symm⟩
  · obtain rfl : negative = false := unsigned
    have above : bound.lt (.infinite false) = true ∧ ceiling.lt (.infinite false) = true ∧
        (infinite false).lt bound = false := by
      rcases boundSized with ⟨bound, rfl, -⟩
      rcases ceilingSized with ⟨ceiling, rfl, -⟩
      exact ⟨rfl, rfl, rfl⟩
    refine ⟨greatest, ?_, (and_iff_left above.2.2).symm⟩
    have number : (infinite false).isNaN = false := rfl
    rwa [min, number, notNaN, if_neg Bool.false_ne_true, if_neg Bool.false_ne_true,
      if_pos above.2.1]
  · have sized : (finite value).IsSized value.size := ⟨value, rfl, unsigned, rfl⟩
    have number : (finite value).isNaN = false := rfl
    rw [compare sized, min, number, notNaN, if_neg Bool.false_ne_true, if_neg Bool.false_ne_true]
    by_cases above : greatest < value.size
    · rw [if_pos ((exceeds sized).mpr above)]
      exact ⟨greatest, ceilingSized,
        (and_iff_left_of_imp fun reached => reached.trans above.le).symm⟩
    · rw [if_neg (mt (exceeds sized).mp above)]
      exact ⟨value.size, sized,
        (and_iff_right_of_imp fun reached => reached.trans (not_lt.mp above)).symm⟩

end Fleet.Binary64
