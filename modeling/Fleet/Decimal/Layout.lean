import Fleet.Decimal.Shortest
import Fleet.Text.Digits

/-!
# Layouts of decimal numbers

A layout says how the digits of a number are chosen and set: which of two equally near decimals is
taken, where positional notation ends, whether a whole number keeps a point, and what stands for an
infinity and for no number. Each output format names
its layout as one value of `Layout`.
-/

namespace Fleet.Decimal

open Binary64

/-- The decisions of a number format over the shortest digits. -/
structure Layout where
  /-- Which of two equally near shortest decimals is written. -/
  tie : Tie
  /-- Whether a number whose decimal point stands after this many digits is written positionally. -/
  positional : Int → Bool
  /-- What follows the digits of a whole number. -/
  wholeTail : String
  infinity : String
  negativeInfinity : String
  notANumber : String

/-- Digits with a decimal point after the first `point` of them, filled up with zeros. -/
def positionalText (digits : List Char) (point : Int) (wholeTail : List Char) : List Char :=
  if point ≤ 0 then
    '0' :: '.' :: (List.replicate (-point).toNat '0' ++ digits)
  else
    let count := point.toNat
    if digits.length ≤ count then
      digits ++ List.replicate (count - digits.length) '0' ++ wholeTail
    else
      digits.take count ++ '.' :: digits.drop count

/-- Digits with a decimal point after the first one, and an exponent with its sign. -/
def scientificText (digits : List Char) (point : Int) : List Char :=
  let exponent := point - 1
  let mantissa :=
    match digits with
    | first :: second :: rest => first :: '.' :: second :: rest
    | short => short
  let sign := if exponent < 0 then '-' else '+'
  mantissa ++ 'e' :: sign :: Nat.toDigits 10 exponent.natAbs

/-- The text of a value in a layout. -/
def Layout.write (layout : Layout) : Binary64 → List Char
  | .notANumber _ => layout.notANumber.toList
  | .infinite negative =>
      (if negative then layout.negativeInfinity else layout.infinity).toList
  | .finite value =>
      let digits := shortest layout.tie value
      let text := digits.text
      let point := digits.exponent + text.length
      let magnitude :=
        if digits.coefficient = 0 then '0' :: layout.wholeTail.toList
        else if layout.positional point then
          positionalText text point layout.wholeTail.toList
        else scientificText text point
      if value.negative then '-' :: magnitude else magnitude

/-- Numbers in messages and metric values: positional throughout, whole numbers without a point,
ties away from zero. -/
def plain : Layout where
  tie := .away
  positional _ := true
  wholeTail := ""
  infinity := "inf"
  negativeInfinity := "-inf"
  notANumber := "NaN"

/-- Numbers in configuration files: positional throughout, whole numbers marked by `.0`, ties away
from zero. -/
def configuration : Layout where
  tie := .away
  positional _ := true
  wholeTail := ".0"
  infinity := "inf"
  negativeInfinity := "-inf"
  notANumber := "nan"

/-- Numbers in status documents: positional from `1e-5` up to `1e16`, whole numbers marked by
`.0`, ties to the even digit; a document has no notation for the other values. -/
def document : Layout where
  tie := .toEven
  positional point := -5 < point && point ≤ 16
  wholeTail := ".0"
  infinity := "null"
  negativeInfinity := "null"
  notANumber := "null"

/-- The text of a value with a fixed number of digits after the point. The sign of a negative zero
is kept. -/
def fixedText (places : Nat) : Binary64 → List Char
  | .notANumber _ => "NaN".toList
  | .infinite negative => if negative then "-inf".toList else "inf".toList
  | .finite value =>
      let digits := Text.paddedDigits (places + 1) (fixed places value)
      let whole := digits.take (digits.length - places)
      let fraction := digits.drop (digits.length - places)
      let magnitude := if places = 0 then whole else whole ++ '.' :: fraction
      if value.negative then '-' :: magnitude else magnitude

end Fleet.Decimal
