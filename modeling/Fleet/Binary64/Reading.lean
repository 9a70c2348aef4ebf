import Fleet.Binary64.Arithmetic
import Fleet.Text.Digits

/-!
# Reading decimal numbers

A written number is an optional sign, digits with at most one point among or around them, and an
optional exponent. The words `inf`, `infinity` and `nan`, in any case, stand for the values without
digits.
-/

namespace Fleet.Binary64

/-- Takes an optional sign off the text; the flag tells whether it is a minus. -/
def splitSign : List Char → Bool × List Char
  | '-' :: rest => (true, rest)
  | '+' :: rest => (false, rest)
  | text => (false, text)

/-- The exponent written by an optional sign and at least one digit. -/
def readExponent? (text : List Char) : Option Int :=
  let (negative, digits) := splitSign text
  (Text.readDigits? digits).map fun value => if negative then -(value : Int) else value

/-- The value of an unsigned decimal number, given the sign that preceded it. -/
def readDecimal? (negative : Bool) (text : List Char) : Option Binary64 :=
  let whole := text.takeWhile Text.isDigit
  let afterWhole := text.dropWhile Text.isDigit
  let (fraction, afterFraction) :=
    match afterWhole with
    | '.' :: rest => (rest.takeWhile Text.isDigit, rest.dropWhile Text.isDigit)
    | _ => ([], afterWhole)
  let exponent? : Option Int :=
    match afterFraction with
    | [] => some 0
    | mark :: rest => if mark = 'e' ∨ mark = 'E' then readExponent? rest else none
  if whole.isEmpty && fraction.isEmpty then none
  else
    exponent?.map fun exponent =>
      ofDecimal negative (Text.digitsValue (whole ++ fraction) 0) (exponent - fraction.length)

/-- The value of a written number, correctly rounded. -/
def ofText? (text : List Char) : Option Binary64 :=
  let (negative, magnitude) := splitSign text
  let word := magnitude.map Text.toLower
  if word = "inf".toList ∨ word = "infinity".toList then some (.infinite negative)
  else if word = "nan".toList then some (quiet negative)
  else readDecimal? negative magnitude

end Fleet.Binary64
