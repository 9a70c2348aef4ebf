import Fleet.Binary64.Basic

/-!
# Arithmetic with one rounding

Each operation computes its exact result as a ratio of natural numbers and rounds it once, to the
nearest value and on a tie to the one with the even mantissa.
-/

namespace Fleet.Binary64

/-- The natural number nearest to a ratio; on a tie the even one. -/
def nearestQuotient (numerator denominator : Nat) : Nat :=
  let quotient := numerator / denominator
  let remainder := numerator % denominator
  if denominator < 2 * remainder ∨ (2 * remainder = denominator ∧ quotient % 2 = 1) then
    quotient + 1
  else
    quotient

/-- The greatest `e` with `2 ^ e ≤ numerator / denominator`, for a positive ratio. -/
def floorLog2 (numerator denominator : Nat) : Int :=
  let estimate : Int := (numerator.log2 : Int) - (denominator.log2 : Int)
  if denominator * Nat.pow 2 estimate.toNat ≤ numerator * Nat.pow 2 (-estimate).toNat then estimate
  else estimate - 1

/-- The value nearest to `± numerator / denominator`, for a positive denominator. -/
def ofRatio (negative : Bool) (numerator denominator : Nat) : Binary64 :=
  if numerator = 0 then zero negative
  else
    let exponent : Int :=
      let natural := floorLog2 numerator denominator - 52
      if natural < leastExponent then leastExponent else natural
    let mantissa :=
      nearestQuotient (numerator * Nat.pow 2 (-exponent).toNat)
        (denominator * Nat.pow 2 exponent.toNat)
    pack negative mantissa exponent

/-- The number of least positive units in one. -/
def unit : Nat := Nat.pow 2 1074

/-- The value nearest to a natural number. -/
def ofNat (number : Nat) : Binary64 :=
  ofRatio false number 1

instance (number : Nat) : OfNat Binary64 (number + 1) := ⟨ofNat (number + 1)⟩

/-- The value nearest to `± coefficient · 10 ^ exponent`. A coefficient whose decimal point lies
beyond the range of the format is decided without computing the power. -/
def ofDecimal (negative : Bool) (coefficient : Nat) (exponent : Int) : Binary64 :=
  if coefficient = 0 then zero negative
  else
    let point := exponent + (Nat.toDigits 10 coefficient).length
    if 400 < point then .infinite negative
    else if point < -400 then zero negative
    else ofRatio negative (coefficient * Nat.pow 10 exponent.toNat) (Nat.pow 10 (-exponent).toNat)

/-- The sum of two values. An exact zero is negative only where both addends are. -/
def add : Binary64 → Binary64 → Binary64
  | .notANumber _, _ | _, .notANumber _ => nan
  | .infinite left, .infinite right => if left = right then .infinite left else nan
  | .infinite left, .finite _ => .infinite left
  | .finite _, .infinite right => .infinite right
  | .finite left, .finite right =>
      let sum := left.units + right.units
      if sum = 0 then zero (left.negative && right.negative)
      else ofRatio (sum < 0) sum.natAbs unit

/-- The product of two values. -/
def mul : Binary64 → Binary64 → Binary64
  | .notANumber _, _ | _, .notANumber _ => nan
  | .infinite left, .infinite right => .infinite (left != right)
  | .infinite left, .finite right =>
      if right.mantissa = 0 then nan else .infinite (left != right.negative)
  | .finite left, .infinite right =>
      if left.mantissa = 0 then nan else .infinite (left.negative != right)
  | .finite left, .finite right =>
      ofRatio (left.negative != right.negative) (left.magnitude * right.magnitude) (unit * unit)

/-- The quotient of two values. -/
def div : Binary64 → Binary64 → Binary64
  | .notANumber _, _ | _, .notANumber _ => nan
  | .infinite _, .infinite _ => nan
  | .infinite left, .finite right => .infinite (left != right.negative)
  | .finite left, .infinite right => zero (left.negative != right)
  | .finite left, .finite right =>
      if right.mantissa = 0 then
        if left.mantissa = 0 then nan else .infinite (left.negative != right.negative)
      else
        ofRatio (left.negative != right.negative) left.magnitude right.magnitude

instance : Add Binary64 := ⟨add⟩
instance : Mul Binary64 := ⟨mul⟩
instance : Div Binary64 := ⟨div⟩

/-- The least whole number that is not below a finite value. -/
def Finite.ceiling (value : Finite) : Int :=
  -((-value.units) / (unit : Int))

/-- The value as a whole number of 64 bits without sign: fractions are dropped, what lies outside
of the range goes to the nearer end, and what is not a number to zero. -/
def toWord : Binary64 → UInt64
  | .notANumber _ => 0
  | .infinite negative => if negative then 0 else UInt64.ofNat (UInt64.size - 1)
  | .finite value =>
      if value.negative then 0
      else UInt64.ofNat (Nat.min (value.magnitude / unit) (UInt64.size - 1))

/-- The least whole number not below the value, held within the signed words of 64 bits; zero for
what is not a number. -/
def ceilingWord : Binary64 → Int
  | .notANumber _ => 0
  | .infinite negative => if negative then Int64.minValue.toInt else Int64.maxValue.toInt
  | .finite value => Max.max Int64.minValue.toInt (Min.min Int64.maxValue.toInt value.ceiling)

end Fleet.Binary64
