/-!
# Binary floating-point numbers

A `Binary64` is a number of the 64-bit binary format. A finite one is `± mantissa · 2 ^ exponent`
in its one canonical form: the mantissa has 53 bits, or the exponent is the least one. Equality of
values is therefore equality of representations, and the two zeros are different values. What is not
a number has a sign and a fraction as well, which only the total order looks at.

Every finite value is a whole number of units of `2 ^ -1074`, the least positive value. Comparisons
and arithmetic are stated on that whole number, exactly.
-/

namespace Fleet

namespace Binary64

/-- The exponent of the least positive value. -/
def leastExponent : Int := -1074

/-- The exponent of the greatest finite values. -/
def greatestExponent : Int := 971

/-- The least mantissa of 53 bits: its first bit is the one that words do not hold. -/
def hiddenBit : Nat := Nat.pow 2 52

/-- The mantissa and exponent of a canonical finite value. -/
def Canonical (mantissa : Nat) (exponent : Int) : Prop :=
  mantissa < 2 * hiddenBit ∧ leastExponent ≤ exponent ∧ exponent ≤ greatestExponent ∧
    (hiddenBit ≤ mantissa ∨ exponent = leastExponent)

instance (mantissa : Nat) (exponent : Int) : Decidable (Canonical mantissa exponent) :=
  inferInstanceAs (Decidable (_ ∧ _))

/-- The finite value `± mantissa · 2 ^ exponent` in canonical form. -/
structure Finite where
  negative : Bool
  mantissa : Nat
  exponent : Int
  canonical : Canonical mantissa exponent
  deriving DecidableEq

namespace Finite

/-- The magnitude as a whole number of units of `2 ^ -1074`. -/
def magnitude (value : Finite) : Nat :=
  value.mantissa * Nat.pow 2 (value.exponent - leastExponent).toNat

/-- The value as a whole number of units of `2 ^ -1074`. -/
def units (value : Finite) : Int :=
  if value.negative then -value.magnitude else value.magnitude

end Finite

/-- The sign and the fraction of a value that is not a number. -/
structure NaN where
  negative : Bool
  fraction : Nat
  inRange : 0 < fraction ∧ fraction < hiddenBit
  deriving DecidableEq

end Binary64

/-- A number of the 64-bit binary floating-point format, an infinity, or no number. -/
inductive Binary64 where
  | notANumber (pattern : Binary64.NaN)
  | infinite (negative : Bool)
  | finite (value : Binary64.Finite)
  deriving DecidableEq

namespace Binary64

/-- The zero of the given sign. -/
def zero (negative : Bool) : Binary64 :=
  .finite ⟨negative, 0, leastExponent, by decide⟩

instance : Inhabited Binary64 := ⟨zero false⟩

instance : OfNat Binary64 0 := ⟨zero false⟩

/-- The quiet value of the given sign that is not a number. -/
def quiet (negative : Bool) : Binary64 :=
  .notANumber ⟨negative, Nat.pow 2 51, by decide⟩

/-- What an operation without a result gives. The format leaves the sign open. -/
def nan : Binary64 := quiet false

/-- The canonical value with a mantissa that rounding may have carried to twice the hidden bit; an
infinity where the exponent is too large. -/
def pack (negative : Bool) (mantissa : Nat) (exponent : Int) : Binary64 :=
  if carried : mantissa = 2 * hiddenBit ∧ Canonical hiddenBit (exponent + 1) then
    .finite ⟨negative, hiddenBit, exponent + 1, carried.2⟩
  else if canonical : Canonical mantissa exponent then
    .finite ⟨negative, mantissa, exponent, canonical⟩
  else
    .infinite negative

/-- The 64 bits of a value: a sign, eleven bits of exponent, 52 bits of fraction. -/
def toBits : Binary64 → UInt64
  | .notANumber pattern =>
      let sign := if pattern.negative then 2048 else 0
      UInt64.ofNat ((sign + 2047) * hiddenBit + pattern.fraction)
  | .infinite negative => if negative then 0xfff0000000000000 else 0x7ff0000000000000
  | .finite value =>
      let sign := if value.negative then 2048 else 0
      let field :=
        if value.mantissa < hiddenBit then 0 else (value.exponent - leastExponent).toNat + 1
      UInt64.ofNat ((sign + field) * hiddenBit + value.mantissa % hiddenBit)

/-- Whether the value is a number and not an infinity. -/
def isFinite : Binary64 → Bool
  | .finite _ => true
  | _ => false

/-- Whether the value is no number. -/
def isNaN : Binary64 → Bool
  | .notANumber _ => true
  | _ => false

/-- Whether the value is a number with a minus, also for a zero. -/
def isNegative : Binary64 → Bool
  | .notANumber _ => false
  | .infinite negative => negative
  | .finite value => value.negative

/-- Numeric order: an infinity lies beyond every finite value, the zeros are equal, and what is
not a number is below nothing. -/
def lt : Binary64 → Binary64 → Bool
  | .notANumber _, _ | _, .notANumber _ => false
  | .infinite left, .infinite right => left && !right
  | .infinite left, .finite _ => left
  | .finite _, .infinite right => !right
  | .finite left, .finite right => left.units < right.units

/-- Numeric order or equality; false where either side is not a number. -/
def le : Binary64 → Binary64 → Bool
  | .notANumber _, _ | _, .notANumber _ => false
  | left, right => !lt right left

/-- The kinds of values in their order: what is not a number lies beyond the infinity of its
sign. -/
def kind : Binary64 → Nat
  | .notANumber pattern => if pattern.negative then 0 else 4
  | .infinite negative => if negative then 1 else 3
  | .finite _ => 2

/-- The place of a value among those of its kind: a finite one has that of its number, and what is
not a number is the farther out the greater its fraction. -/
def place : Binary64 → Int
  | .notANumber pattern => if pattern.negative then -pattern.fraction else pattern.fraction
  | .infinite _ => 0
  | .finite value => value.units

/-- The place of a finite value among those of the same number: the negative zero comes first. -/
def placeOfSign : Binary64 → Nat
  | .finite value => (!value.negative).toNat
  | _ => 0

/-- The total order of all values: by kind, then by number, then by sign. -/
def totalCompare : Binary64 → Binary64 → Ordering :=
  compareLex (compareOn kind) (compareLex (compareOn place) (compareOn placeOfSign))

/-- The smaller of two values; the other one where one is not a number. -/
def min (left right : Binary64) : Binary64 :=
  if left.isNaN then right
  else if right.isNaN then left
  else if lt right left then right else left

/-- The greater of two values; the other one where one is not a number. -/
def max (left right : Binary64) : Binary64 :=
  if left.isNaN then right
  else if right.isNaN then left
  else if lt left right then right else left

/-- The value moved to the nearer bound where it lies outside of them. What is not a number stays
so. -/
def clamp (value lower upper : Binary64) : Binary64 :=
  if lt value lower then lower else if lt upper value then upper else value

end Binary64

end Fleet
