import Fleet.Binary64.Reading
import Fleet.Json.Value

/-!
# Reading JSON

The reader accepts exactly the JSON grammar. A text with half a surrogate pair and a number out of
range are part of the grammar and read as unreadable values.
-/

namespace Fleet.Json

/-- The text without leading blanks of the JSON grammar. -/
def skipBlanks (text : List Char) : List Char :=
  text.dropWhile fun character =>
    character == ' ' || character == '\n' || character == '\r' || character == '\t'

/-- Four hexadecimal digits, and the text after them. -/
def readHex? : List Char → Option (Nat × List Char)
  | a :: b :: c :: d :: rest => do
      let a ← Text.hexValue? a
      let b ← Text.hexValue? b
      let c ← Text.hexValue? c
      let d ← Text.hexValue? d
      return (((a * 16 + b) * 16 + c) * 16 + d, rest)
  | _ => none

/-- The character that a short escape stands for. -/
def shortEscape? : Char → Option Char
  | '"' => some '"'
  | '\\' => some '\\'
  | '/' => some '/'
  | 'b' => some (Char.ofNat 8)
  | 'f' => some (Char.ofNat 12)
  | 'n' => some '\n'
  | 'r' => some '\r'
  | 't' => some '\t'
  | _ => none

/-- A code unit written after `\u`, joined with a second one where the two form a surrogate pair.
The character is missing for half a pair. -/
def readUnit? (text : List Char) : Option (Option Char × List Char) := do
  let (unit, rest) ← readHex? text
  if 0xDC00 ≤ unit ∧ unit ≤ 0xDFFF then return (none, rest)
  else if 0xD800 ≤ unit ∧ unit ≤ 0xDBFF then
    match rest with
    | '\\' :: 'u' :: second =>
        let (low, after) ← readHex? second
        if 0xDC00 ≤ low ∧ low ≤ 0xDFFF then
          return (some (Char.ofNat (0x10000 + (unit - 0xD800) * 0x400 + (low - 0xDC00))), after)
        else return (none, rest)
    | _ => return (none, rest)
  else return (some (Char.ofNat unit), rest)

/-- The characters up to the closing quote, and the text after it. The characters are missing
where one of them is. -/
def readCharacters? : (fuel : Nat) → List Char → Option (Option (List Char) × List Char)
  | 0, _ => none
  | fuel + 1, text =>
      match text with
      | [] => none
      | '"' :: rest => some (some [], rest)
      | '\\' :: 'u' :: rest => do
          let (character, after) ← readUnit? rest
          let (characters, final) ← readCharacters? fuel after
          return (return (← character) :: (← characters), final)
      | '\\' :: mark :: rest => do
          let character ← shortEscape? mark
          let (characters, final) ← readCharacters? fuel rest
          return (characters.map (character :: ·), final)
      | character :: rest =>
          if character.toNat < 32 || character == '\\' then none
          else do
            let (characters, final) ← readCharacters? fuel rest
            return (characters.map (character :: ·), final)

/-- The value of a significand times a power of ten, each rounded; missing where the power or the
product is beyond the range of floating-point numbers. -/
def scaled? (negative : Bool) (significand : Nat) (exponent : Int) : Option Binary64 :=
  if significand = 0 then some (Binary64.zero negative)
  else if 308 < exponent then none
  else
    let value :=
      if exponent < 0 then Binary64.ofDecimal negative significand exponent
      else Binary64.ofDecimal negative significand 0 * Binary64.ofDecimal false 1 exponent
    if value.isFinite then some value else none

/-- The value of the digits before and after the point, times a power of ten. Its significand has
64 bits: the digits before the point that do not fit into it only raise the power, those after the
point count for nothing. -/
def realOfDigits? (negative : Bool) (whole fraction : List Char) (exponent : Int) :
    Option Binary64 :=
  let (start, dropped) := Text.digitsBelow UInt64.size 0 whole
  let (significand, ignored) := Text.digitsBelow UInt64.size start fraction
  scaled? negative significand (exponent + dropped.length - (fraction.length - ignored.length))

/-- A number, and the text after it. -/
def readNumber? (text : List Char) : Option (Value × List Char) :=
  let (negative, unsigned) :=
    match text with
    | '-' :: rest => (true, rest)
    | _ => (false, text)
  let whole := unsigned.takeWhile Text.isDigit
  let afterWhole := unsigned.dropWhile Text.isDigit
  if whole.isEmpty || (whole.head? == some '0' && whole != ['0']) then none
  else
    let fraction? : Option (Option (List Char) × List Char) :=
      match afterWhole with
      | '.' :: rest =>
          let digits := rest.takeWhile Text.isDigit
          if digits.isEmpty then none else some (some digits, rest.dropWhile Text.isDigit)
      | _ => some (none, afterWhole)
    match fraction? with
    | none => none
    | some (fraction, afterFraction) =>
        let exponent? : Option (Option Int × List Char) :=
          match afterFraction with
          | mark :: rest =>
              if mark = 'e' ∨ mark = 'E' then
                let (minus, digitsText) := Binary64.splitSign rest
                let digits := digitsText.takeWhile Text.isDigit
                if digits.isEmpty then none
                else
                  let value : Int := Text.digitsValue digits 0
                  some (some (if minus then -value else value), digitsText.dropWhile Text.isDigit)
              else some (none, afterFraction)
          | [] => some (none, [])
        exponent?.map fun (exponent, rest) =>
          let value := Text.digitsValue whole 0
          if !negative && fraction.isNone && exponent.isNone && value < UInt64.size then
            (.whole value, rest)
          else
            match realOfDigits? negative whole (fraction.getD []) (exponent.getD 0) with
            | some number => (.real number, rest)
            | none => (.unreadable, rest)

mutual

/-- A value after leading blanks, and the text after it. -/
def readValue? : (fuel : Nat) → List Char → Option (Value × List Char)
  | 0, _ => none
  | fuel + 1, text =>
      match skipBlanks text with
      | 'n' :: 'u' :: 'l' :: 'l' :: rest => some (.null, rest)
      | 't' :: 'r' :: 'u' :: 'e' :: rest => some (.boolean true, rest)
      | 'f' :: 'a' :: 'l' :: 's' :: 'e' :: rest => some (.boolean false, rest)
      | '"' :: rest => do
          let (characters, after) ← readCharacters? (rest.length + 1) rest
          return (match characters with
            | some characters => .text (String.ofList characters)
            | none => .unreadable, after)
      | '[' :: rest =>
          match skipBlanks rest with
          | ']' :: after => some (.list [], after)
          | _ => (readItems? fuel rest).map fun (items, after) => (.list items, after)
      | '{' :: rest =>
          match skipBlanks rest with
          | '}' :: after => some (.record [], after)
          | _ => (readFields? fuel rest).map fun (fields, after) =>
              (match fields with
                | some fields => .record fields
                | none => .unreadable, after)
      | number => readNumber? number

/-- The items up to the closing bracket, at least one, and the text after it. -/
def readItems? : (fuel : Nat) → List Char → Option (List Value × List Char)
  | 0, _ => none
  | fuel + 1, text => do
      let (value, rest) ← readValue? fuel text
      match skipBlanks rest with
      | ']' :: after => return ([value], after)
      | ',' :: after =>
          let (values, final) ← readItems? fuel after
          return (value :: values, final)
      | _ => none

/-- The fields up to the closing brace, at least one, and the text after it. They are missing where
one of their names is unreadable. -/
def readFields? : (fuel : Nat) → List Char → Option (Option (List (String × Value)) × List Char)
  | 0, _ => none
  | fuel + 1, text =>
      match skipBlanks text with
      | '"' :: start => do
          let (name, afterName) ← readCharacters? (start.length + 1) start
          match skipBlanks afterName with
          | ':' :: afterColon =>
              let (value, rest) ← readValue? fuel afterColon
              let field := name.map fun characters => (String.ofList characters, value)
              match skipBlanks rest with
              | '}' :: after => return (field.map ([·]), after)
              | ',' :: after =>
                  let (fields, final) ← readFields? fuel after
                  return (return (← field) :: (← fields), final)
              | _ => none
          | _ => none
      | _ => none

end

/-- The value that a whole text denotes, between blanks. -/
def read? (text : String) : Option Value :=
  match readValue? (2 * text.length + 2) text.toList with
  | some (value, rest) => if (skipBlanks rest).isEmpty then some value else none
  | none => none

namespace Value

/-- The text of a text value. -/
def asText? : Value → Option String
  | text value => some value
  | _ => none

mutual

/-- How deep lists and records nest in a value. -/
def depth : Value → Nat
  | list items => depthOfItems items + 1
  | record fields => depthOfFields fields + 1
  | _ => 0

/-- How deep lists and records nest in the items of a list. -/
def depthOfItems : List Value → Nat
  | [] => 0
  | value :: rest => max value.depth (depthOfItems rest)

/-- How deep lists and records nest in the fields of a record. -/
def depthOfFields : List (String × Value) → Nat
  | [] => 0
  | (_, value) :: rest => max value.depth (depthOfFields rest)

end

mutual

/-- Whether all texts and numbers in a value are readable. -/
def isReadable : Value → Bool
  | unreadable => false
  | list items => areReadable items
  | record fields => fieldsAreReadable fields
  | _ => true

/-- Whether all texts and numbers in the items of a list are readable. -/
def areReadable : List Value → Bool
  | [] => true
  | value :: rest => value.isReadable && areReadable rest

/-- Whether all texts and numbers in the fields of a record are readable. -/
def fieldsAreReadable : List (String × Value) → Bool
  | [] => true
  | (_, value) :: rest => value.isReadable && fieldsAreReadable rest

end

/-- How deep lists and records may nest in a value that is taken in as a whole. -/
def depthLimit : Nat := 127

/-- Whether a value can be taken in as a whole, with the fields that its reader does not name. -/
def isLoadable (value : Value) : Bool :=
  value.isReadable && value.depth ≤ depthLimit

/-- The number of a whole value below a limit. -/
def asWhole? (limit : Nat) : Value → Option Nat
  | whole value => if value < limit then some value else none
  | _ => none

/-- The values of the named fields, in the order of the names: from a record, in which no named
field may occur twice, or from a list of exactly these values. A field that is missing in a record
takes the value that `absent` gives for its name, if any. -/
def namedFields? (names : List String) (absent : String → Option Value) :
    Value → Option (List Value)
  | record fields =>
      names.mapM fun name =>
        match fields.filter (·.1 == name) with
        | [] => absent name
        | [(_, value)] => some value
        | _ => none
  | list items => if items.length = names.length then some items else none
  | _ => none

end Value

end Fleet.Json
