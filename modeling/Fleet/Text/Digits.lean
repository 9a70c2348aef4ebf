/-!
# Decimal digits

Unsigned numbers are read from ASCII digits. A number that does not fit under the given limit is
refused rather than wrapped.
-/

namespace Fleet.Text

/-- Whether a character is one of `0` to `9`. -/
def isDigit (character : Char) : Bool :=
  48 ≤ character.toNat && character.toNat ≤ 57

/-- Whether a character is an ASCII letter or digit. -/
def isAlphanumeric (character : Char) : Bool :=
  let code := character.toNat
  isDigit character || (65 ≤ code && code ≤ 90) || (97 ≤ code && code ≤ 122)

/-- An ASCII capital letter in lower case, any other character as it is. -/
def toLower (character : Char) : Char :=
  let code := character.toNat
  if 65 ≤ code ∧ code ≤ 90 then Char.ofNat (code + 32) else character

/-- The number that digits denote, continuing from the number that their predecessors denote. -/
def digitsValue (digits : List Char) (start : Nat) : Nat :=
  digits.foldl (fun value digit => 10 * value + (digit.toNat - 48)) start

/-- The number that the first digits denote, after a number that their predecessors denote, and the
digits from the first one on that would take it to the limit. -/
def digitsBelow (limit : Nat) : (start : Nat) → List Char → Nat × List Char
  | start, [] => (start, [])
  | start, digit :: rest =>
      let value := digitsValue [digit] start
      if value < limit then digitsBelow limit value rest else (start, digit :: rest)

/-- The number written by a non-empty run of digits. -/
def readDigits? (text : List Char) : Option Nat :=
  if text.isEmpty || !text.all isDigit then none else some (digitsValue text 0)

/-- The number below `limit` written by a run of digits, after at most one plus sign. -/
def readUnsigned? (limit : Nat) (text : List Char) : Option Nat :=
  let digits :=
    match text with
    | '+' :: rest => rest
    | _ => text
  (readDigits? digits).filter (· < limit)

/-- The value of a hexadecimal digit of either case. -/
def hexValue? (character : Char) : Option Nat :=
  let code := character.toNat
  if 48 ≤ code ∧ code ≤ 57 then some (code - 48)
  else if 97 ≤ code ∧ code ≤ 102 then some (code - 87)
  else if 65 ≤ code ∧ code ≤ 70 then some (code - 55)
  else none

/-- The number in lower-case hexadecimal digits, without leading zeros. -/
def hexDigits (number : Nat) : List Char :=
  Nat.toDigits 16 number

/-- The number in decimal digits, filled up with zeros on the left to the given width. -/
def paddedDigits (width number : Nat) : List Char :=
  let digits := Nat.toDigits 10 number
  List.replicate (width - digits.length) '0' ++ digits

end Fleet.Text
