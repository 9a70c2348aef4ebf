import Fleet.Binary64.Arithmetic

/-!
# Shortest decimals

The decimal that a program writes for a finite value has the fewest digits among those that read
back as the value, and of those it is the nearest one. A value halfway between two of them is
written as the format at hand says.
-/

namespace Fleet.Decimal

open Binary64

/-- The positive decimal number `coefficient · 10 ^ exponent`. -/
structure Digits where
  coefficient : Nat
  exponent : Int
  deriving DecidableEq, Repr

namespace Digits

/-- The digits of the coefficient. -/
def text (digits : Digits) : List Char :=
  Nat.toDigits 10 digits.coefficient

/-- The same number without trailing zeros in its coefficient. -/
def normalize (digits : Digits) : Digits :=
  let zeros := (digits.text.reverse.takeWhile (· == '0')).length
  if digits.coefficient = 0 then digits
  else ⟨digits.coefficient / Nat.pow 10 zeros, digits.exponent + zeros⟩

end Digits

/-- Which of two equally near neighbours is taken. -/
inductive Tie where
  /-- The one with an even last digit. -/
  | toEven
  /-- The one of greater magnitude. -/
  | away
  deriving DecidableEq, Repr

/-- Whether a tie above the given coefficient goes down to it. -/
def Tie.keeps (tie : Tie) (below : Nat) : Bool :=
  match tie with
  | .toEven => below % 2 == 0
  | .away => false

/-- The power of ten `k` with `10 ^ (k - 1) ≤ numerator / denominator < 10 ^ k`, for a positive
ratio. -/
def decimalPoint (numerator denominator : Nat) : Int :=
  let estimate : Int :=
    (Nat.toDigits 10 numerator).length - (Nat.toDigits 10 denominator).length
  if denominator * Nat.pow 10 estimate.toNat ≤ numerator * Nat.pow 10 (-estimate).toNat then
    estimate + 1
  else estimate

/-- The neighbours of a positive value among the decimals with the given exponent that read back
as the value, the nearer one first. -/
def neighbours (tie : Tie) (value : Finite) (exponent : Int) : List Digits :=
  let numerator := value.magnitude * Nat.pow 10 (-exponent).toNat
  let denominator := unit * Nat.pow 10 exponent.toNat
  let below := numerator / denominator
  let twice := 2 * (numerator % denominator)
  let ordered :=
    if twice < denominator ∨ (twice = denominator ∧ tie.keeps below) then [below, below + 1]
    else [below + 1, below]
  let readsBack (coefficient : Nat) : Bool :=
    ofDecimal value.negative coefficient exponent = .finite value
  (ordered.filter readsBack).map (⟨·, exponent⟩)

/-- The first decimal that reads back when one digit after the other is allowed. -/
def search (tie : Tie) (value : Finite) (point : Int) : (fuel count : Nat) → Digits
  | 0, count => ⟨0, point - count⟩
  | fuel + 1, count =>
      match neighbours tie value (point - count) with
      | nearest :: _ => nearest.normalize
      | [] => search tie value point fuel (count + 1)

/-- The shortest decimal that reads back as the magnitude of a value; seventeen digits always
suffice. -/
def shortest (tie : Tie) (value : Finite) : Digits :=
  if value.mantissa = 0 then ⟨0, 0⟩
  else search tie value (decimalPoint value.magnitude unit) 17 1

/-- The multiple of `10 ^ -places` nearest to the magnitude of a value, as a coefficient; a tie
goes to the even one. -/
def fixed (places : Nat) (value : Finite) : Nat :=
  nearestQuotient (value.magnitude * Nat.pow 10 places) unit

end Fleet.Decimal
