import Fleet.Binary64.Reading
import Fleet.Text.Cut
import Fleet.Toml.Value

/-!
# Scalar values of configuration documents

Readers for texts, numbers and points in time. Each reader takes a value off the start of a text
and answers with the rest; a failed reader answers nothing.
-/

namespace Fleet.Toml

/-- The text without leading spaces and tabs. -/
def skipSpaces (text : List Char) : List Char :=
  text.dropWhile fun character => character == ' ' || character == '\t'

/-- What follows a line end at the start of the text. -/
def dropLineEnd? : List Char → Option (List Char)
  | '\n' :: rest => some rest
  | '\r' :: '\n' :: rest => some rest
  | _ => none

/-- Whether a character may stand in a comment, and in a text between quotes. -/
def isPrintable (character : Char) : Bool :=
  let code := character.toNat
  code == 9 || (32 ≤ code && code != 127)

/-! ### Texts -/

/-- A number of hexadecimal digits, and the rest. -/
def readHexDigits? : (count : Nat) → (value : Nat) → List Char → Option (Nat × List Char)
  | 0, value, text => some (value, text)
  | count + 1, value, character :: rest => do
      readHexDigits? count (16 * value + (← Text.hexValue? character)) rest
  | _ + 1, _, [] => none

/-- The character with a code point, unless the number is none. -/
def characterOf? (code : Nat) : Option Char :=
  if code < 0xD800 ∨ (0xE000 ≤ code ∧ code < 0x110000) then some (Char.ofNat code) else none

/-- The character that an escape stands for, after its backslash. -/
def readEscape? : List Char → Option (Char × List Char)
  | 'b' :: rest => some (Char.ofNat 8, rest)
  | 't' :: rest => some ('\t', rest)
  | 'n' :: rest => some ('\n', rest)
  | 'f' :: rest => some (Char.ofNat 12, rest)
  | 'r' :: rest => some ('\r', rest)
  | '"' :: rest => some ('"', rest)
  | '\\' :: rest => some ('\\', rest)
  | 'u' :: rest => do
      let (code, rest) ← readHexDigits? 4 0 rest
      return (← characterOf? code, rest)
  | 'U' :: rest => do
      let (code, rest) ← readHexDigits? 8 0 rest
      return (← characterOf? code, rest)
  | _ => none

/-- A text on one line with escapes, up to its closing quote. -/
def readBasic? : (fuel : Nat) → List Char → Option (List Char × List Char)
  | 0, _ => none
  | fuel + 1, text =>
      match text with
      | [] => none
      | '"' :: rest => some ([], rest)
      | '\\' :: rest => do
          let (character, rest) ← readEscape? rest
          let (characters, rest) ← readBasic? fuel rest
          return (character :: characters, rest)
      | character :: rest =>
          if isPrintable character then do
            let (characters, rest) ← readBasic? fuel rest
            return (character :: characters, rest)
          else none

/-- A text on one line without escapes, up to its closing quote. -/
def readLiteral? (text : List Char) : Option (List Char × List Char) :=
  let characters := text.takeWhile fun character => isPrintable character && character != '\''
  match text.drop characters.length with
  | '\'' :: rest => some (characters, rest)
  | _ => none

/-- The text without leading spaces, tabs and line ends. -/
def skipBlank : List Char → List Char
  | '\r' :: '\n' :: rest | '\n' :: rest | ' ' :: rest | '\t' :: rest => skipBlank rest
  | text => text

/-- What follows a line end and further blank lines, after spaces. -/
def dropBlankLines? (text : List Char) : Option (List Char) :=
  (dropLineEnd? (skipSpaces text)).map skipBlank

/-- Up to five quotes at the start of the text close a text of several lines: the last three are
its end, those before them its last characters. -/
def readClosing? (quote : Char) (text : List Char) : Option (List Char × List Char) :=
  let count := ((text.take 5).takeWhile (· == quote)).length
  if count < 3 then none else some (List.replicate (count - 3) quote, text.drop count)

/-- A text of several lines, up to its closing quotes; escapes count only between double quotes. -/
def readLines? (quote : Char) : (fuel : Nat) → List Char → Option (List Char × List Char)
  | 0, _ => none
  | fuel + 1, text =>
      match readClosing? quote text with
      | some closed => some closed
      | none =>
          match text with
          | [] => none
          | '\r' :: '\n' :: rest | '\n' :: rest => do
              let (characters, rest) ← readLines? quote fuel rest
              return ('\n' :: characters, rest)
          | character :: rest =>
              if character == '\\' && quote == '"' then
                match dropBlankLines? rest with
                | some rest => readLines? quote fuel rest
                | none => do
                    let (character, rest) ← readEscape? rest
                    let (characters, rest) ← readLines? quote fuel rest
                    return (character :: characters, rest)
              else if isPrintable character then do
                let (characters, rest) ← readLines? quote fuel rest
                return (character :: characters, rest)
              else none

/-- A text in any of its four forms. -/
def readText? (text : List Char) : Option (String × List Char) :=
  let asString (read : Option (List Char × List Char)) : Option (String × List Char) :=
    read.map fun (characters, rest) => (String.ofList characters, rest)
  let fuel := text.length
  let body (rest : List Char) : List Char := (dropLineEnd? rest).getD rest
  match text with
  | '"' :: '"' :: '"' :: rest => asString (readLines? '"' fuel (body rest))
  | '\'' :: '\'' :: '\'' :: rest => asString (readLines? '\'' fuel (body rest))
  | '"' :: rest => asString (readBasic? fuel rest)
  | '\'' :: rest => asString (readLiteral? rest)
  | _ => none

/-! ### Numbers -/

/-- The digits of a kind that continue a number, each after at most one underscore, and the rest.
The underscores are left out. -/
def moreDigits (isDigit : Char → Bool) : List Char → List Char × List Char
  | '_' :: digit :: rest =>
      if isDigit digit then
        let (digits, rest) := moreDigits isDigit rest
        (digit :: digits, rest)
      else ([], '_' :: digit :: rest)
  | digit :: rest =>
      if isDigit digit then
        let (digits, rest) := moreDigits isDigit rest
        (digit :: digits, rest)
      else ([], digit :: rest)
  | [] => ([], [])

/-- Digits of a kind with single underscores between them, at least one, and the rest. -/
def readGrouped? (isDigit : Char → Bool) : List Char → Option (List Char × List Char)
  | digit :: rest =>
      if isDigit digit then
        let (digits, rest) := moreDigits isDigit rest
        some (digit :: digits, rest)
      else none
  | [] => none

/-- The digits of a decimal integer: a single zero, or digits that start with none. -/
def readWhole? (text : List Char) : Option (List Char × List Char) :=
  match text with
  | '0' :: rest => some (['0'], rest)
  | _ => readGrouped? Text.isDigit text

/-- The integer that digits of a base denote. -/
def digitsInBase (base : Nat) (digits : List Char) : Int :=
  ((digits.foldl (fun value digit => base * value + (Text.hexValue? digit).getD 0) 0 : Nat) : Int)

/-- An integer, unless it needs more than 64 bits. -/
def integer? (value : Int) (rest : List Char) : Option (Value × List Char) :=
  if Int64.minValue.toInt ≤ value ∧ value ≤ Int64.maxValue.toInt then some (.integer value, rest)
  else none

/-- An integer in decimal, hexadecimal, octal or binary digits. -/
def readInteger? (text : List Char) : Option (Value × List Char) :=
  let inBase (base : Nat) (rest : List Char) : Option (Value × List Char) := do
    let isDigit (character : Char) : Bool :=
      match Text.hexValue? character with
      | some value => value < base
      | none => false
    let (digits, rest) ← readGrouped? isDigit rest
    integer? (digitsInBase base digits) rest
  match text with
  | '0' :: 'x' :: rest => inBase 16 rest
  | '0' :: 'o' :: rest => inBase 8 rest
  | '0' :: 'b' :: rest => inBase 2 rest
  | _ => do
      let (negative, rest) := Binary64.splitSign text
      let (digits, rest) ← readWhole? rest
      let value := digitsInBase 10 digits
      integer? (if negative then -value else value) rest

/-- A floating-point number, which has a fraction or an exponent, or is one of `inf` and `nan`. One
beyond the range of positive numbers is refused. -/
def readFloat? (text : List Char) : Option (Value × List Char) := do
  let (negative, unsigned) := Binary64.splitSign text
  match unsigned with
  | 'i' :: 'n' :: 'f' :: rest => return (.float (.infinite negative), rest)
  | 'n' :: 'a' :: 'n' :: rest => return (.float (.quiet negative), rest)
  | _ =>
      let (whole, afterWhole) ← readWhole? unsigned
      let (fraction, afterFraction) ←
        match afterWhole with
        | '.' :: rest => readGrouped? Text.isDigit rest
        | _ => some ([], afterWhole)
      let (exponent, rest) ←
        match afterFraction with
        | mark :: rest =>
            if mark = 'e' ∨ mark = 'E' then
              let (minus, rest) := Binary64.splitSign rest
              (readGrouped? Text.isDigit rest).map fun (digits, rest) =>
                let value := digitsInBase 10 digits
                (some (if minus then -value else value), rest)
            else some (none, afterFraction)
        | [] => some (none, [])
      if fraction.isEmpty && exponent.isNone then none
      else
        let value := Binary64.ofDecimal negative (Text.digitsValue (whole ++ fraction) 0)
          (exponent.getD 0 - fraction.length)
        if value = .infinite false then none else return (.float value, rest)

/-! ### Points in time -/

/-- A number of exactly `count` digits between two bounds. -/
def readField? (count low high : Nat) (text : List Char) : Option (Nat × List Char) := do
  let digits := text.take count
  if digits.length < count then none
  else
    let value ← Text.readDigits? digits
    if low ≤ value ∧ value ≤ high then return (value, text.drop count) else none

/-- What follows a character at the start of the text. -/
def dropCharacter? (expected : Char) : List Char → Option (List Char)
  | character :: rest => if character = expected then some rest else none
  | [] => none

/-- The number of days of a month. -/
def daysInMonth (year month : Nat) : Nat :=
  let leap := year % 4 = 0 ∧ (year % 100 ≠ 0 ∨ year % 400 = 0)
  if month = 2 then (if leap then 29 else 28)
  else if month ∈ [4, 6, 9, 11] then 30
  else 31

/-- A date. -/
def readDate? (text : List Char) : Option (List Char × List Char) := do
  let (year, rest) ← readField? 4 0 9999 text
  let (month, rest) ← readField? 2 1 12 (← dropCharacter? '-' rest)
  let (_, rest) ← readField? 2 1 (daysInMonth year month) (← dropCharacter? '-' rest)
  return (text.take 10, rest)

/-- A time of day. Digits beyond nanoseconds are dropped. -/
def readTime? (text : List Char) : Option (List Char × List Char) := do
  let (_, rest) ← readField? 2 0 23 text
  let (_, rest) ← readField? 2 0 59 (← dropCharacter? ':' rest)
  let (_, rest) ← readField? 2 0 60 (← dropCharacter? ':' rest)
  let clock := text.take 8
  match rest with
  | '.' :: afterPoint =>
      let digits := afterPoint.takeWhile Text.isDigit
      if digits.isEmpty then return (clock, rest)
      else
        let kept := Text.dropTrailing (· == '0') (digits.take 9)
        return (if kept.isEmpty then clock else clock ++ '.' :: kept,
          afterPoint.dropWhile Text.isDigit)
  | _ => return (clock, rest)

/-- An offset from universal time. An offset of nothing is written with a plus. -/
def readOffset? : List Char → Option (List Char × List Char)
  | [] => none
  | sign :: rest =>
      if sign = 'Z' ∨ sign = 'z' then some (['Z'], rest)
      else if sign = '+' ∨ sign = '-' then do
        let (hours, afterHours) ← readField? 2 0 23 rest
        let (minutes, after) ← readField? 2 0 59 (← dropCharacter? ':' afterHours)
        return ((if hours = 0 ∧ minutes = 0 then '+' else sign) :: rest.take 5, after)
      else none

/-- A date, a time of day, or both with or without an offset. -/
def readMoment? (text : List Char) : Option (Value × List Char) :=
  let moment (characters rest : List Char) : Option (Value × List Char) :=
    some (.moment (String.ofList characters), rest)
  match readDate? text with
  | none => (readTime? text).bind fun (time, rest) => moment time rest
  | some (date, rest) =>
      match rest with
      | [] => moment date []
      | delimiter :: afterDelimiter =>
          if delimiter = 'T' ∨ delimiter = 't' ∨ delimiter = ' ' then
            match readTime? afterDelimiter with
            | none => moment date rest
            | some (time, afterTime) =>
                match readOffset? afterTime with
                | none => moment (date ++ 'T' :: time) afterTime
                | some (offset, afterOffset) =>
                    moment (date ++ 'T' :: time ++ offset) afterOffset
          else moment date rest

/-- A number or a point in time. -/
def readNumeric? (text : List Char) : Option (Value × List Char) :=
  (readMoment? text).or ((readFloat? text).or (readInteger? text))

end Fleet.Toml
