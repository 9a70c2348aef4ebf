import Fleet.Decimal.Layout
import Fleet.Toml.Value

/-!
# Writing configuration documents

A table is written with a header, its plain fields, and then its tables, each in the order of the
fields and after a blank line. A non-empty array of tables is written as one table for each item.
A text is written in the form that needs the fewest escapes.
-/

namespace Fleet.Toml

/-! ### Texts -/

/-- The length of the longest run of a character. -/
def longestRun (quote : Char) (text : List Char) : Nat :=
  (text.foldl
    (fun (longest, current) character =>
      if character = quote then (max longest (current + 1), current + 1) else (longest, 0))
    (0, 0)).1

/-- Whether a character can only be written as an escape: a control character other than a tab and
a line feed. -/
def needsEscape (character : Char) : Bool :=
  let code := character.toNat
  (code < 32 && code != 9 && code != 10) || code == 127

/-- A hexadecimal number of four capital digits. -/
def fourHexDigits (number : Nat) : List Char :=
  let digits := (Nat.toDigits 16 number).map Char.toUpper
  List.replicate (4 - digits.length) '0' ++ digits

/-- A character as an escape. -/
def escaped (character : Char) : List Char :=
  match character with
  | '\t' => ['\\', 't']
  | '\n' => ['\\', 'n']
  | '\r' => ['\\', 'r']
  | '"' => ['\\', '"']
  | '\\' => ['\\', '\\']
  | _ =>
      if character.toNat = 8 then ['\\', 'b']
      else if character.toNat = 12 then ['\\', 'f']
      else '\\' :: 'u' :: fourHexDigits character.toNat

/-- The characters between double quotes. As many quotes in a row as `quotes` are written as they
are, and so are line feeds where several lines are allowed. -/
def escapedText (quotes : Nat) (lines : Bool) : (run : Nat) → List Char → List Char
  | _, [] => []
  | run, character :: rest =>
      if character = '"' then
        if run < quotes then character :: escapedText quotes lines (run + 1) rest
        else escaped character ++ escapedText quotes lines 0 rest
      else if (character = '\n' ∧ lines) ∨
          (32 ≤ character.toNat ∧ character.toNat ≠ 127 ∧ character ≠ '\\') then
        character :: escapedText quotes lines 0 rest
      else escaped character ++ escapedText quotes lines 0 rest

/-- A text in the first form that fits: between double quotes, between single quotes, between
triple double quotes, between triple single quotes, each without escapes other than that of a tab;
else with escapes between double quotes, triple ones where there are several lines. -/
def writeText (text : String) : String :=
  let characters := text.toList
  let control := characters.any needsEscape
  let backslash := characters.contains '\\'
  let lines := characters.contains '\n'
  let double := longestRun '"' characters
  let single := longestRun '\'' characters
  let opening := if lines then ['\n'] else []
  let basic := ['"'] ++ escapedText 0 false 0 characters ++ ['"']
  let basicLines :=
    ['"', '"', '"'] ++ opening ++ escapedText 2 true 0 characters ++ ['"', '"', '"']
  let written : List Char :=
    if !control && !backslash && double = 0 && !lines then basic
    else if !control && single = 0 && !lines then ['\''] ++ characters ++ ['\'']
    else if !control && !backslash && double ≤ 2 then basicLines
    else if !control && single ≤ 2 then
      ['\'', '\'', '\''] ++ opening ++ characters ++ ['\'', '\'', '\'']
    else if lines then basicLines
    else basic
  String.ofList written

/-- Whether a character may belong to a key without quotes. -/
def isBareCharacter (character : Char) : Bool :=
  Text.isAlphanumeric character || character == '_' || character == '-'

/-- A key, between quotes where it needs them. -/
def writeKey (key : String) : String :=
  let characters := key.toList
  let control := characters.any fun character => needsEscape character || character == '\n'
  let backslash := characters.contains '\\'
  let basic := String.ofList (['"'] ++ escapedText 0 false 0 characters ++ ['"'])
  if !characters.isEmpty && characters.all isBareCharacter then key
  else if !control && !backslash && !characters.contains '"' then basic
  else if !control && !characters.contains '\'' then
    String.ofList (['\''] ++ characters ++ ['\''])
  else basic

/-! ### Values -/

/-- The items of an array of more than one item, each on its own line. -/
def writeArrayLines (items : List String) : String :=
  "[\n" ++ String.join (items.map fun item => "    " ++ item ++ ",\n") ++ "]"

/-- The items of an array. -/
def writeArray : List String → String
  | [] => "[]"
  | [item] => "[" ++ item ++ "]"
  | items => writeArrayLines items

mutual

/-- A value on the right of an equals sign. -/
def Value.write : Value → String
  | .text value => writeText value
  | .integer value => toString value
  | .float value => String.ofList (Decimal.configuration.write value)
  | .boolean value => if value then "true" else "false"
  | .moment value => value
  | .array items => writeArray (writeItems items)
  | .table fields =>
      if fields.isEmpty then "\x7b\x7d"
      else "\x7b " ++ String.intercalate ", " (writeInline fields) ++ " \x7d"

/-- The items of an array, each written. -/
def writeItems : List Value → List String
  | [] => []
  | value :: rest => value.write :: writeItems rest

/-- The fields of an inline table. -/
def writeInline : List (String × Value) → List String
  | [] => []
  | (key, value) :: rest => (writeKey key ++ " = " ++ value.write) :: writeInline rest

end

/-- Whether a value is a non-empty array of tables. -/
def isTableArray : Value → Bool
  | .array items =>
      !items.isEmpty && items.all fun item =>
        match item with
        | .table _ => true
        | _ => false
  | _ => false

/-- Whether a value is written under a header of its own. -/
def hasHeader : Value → Bool
  | .table _ => true
  | value => isTableArray value

/-- The lines of the plain fields of a table. -/
def plainLines (fields : List (String × Value)) : String :=
  String.join ((fields.filter fun field => !hasHeader field.2).map fun (key, value) =>
    writeKey key ++ " = " ++ value.write ++ "\n")

mutual

/-- The blocks of text of the tables among some fields; `path` is the path of their table. -/
def tableBlocks (path : String) : List (String × Value) → List String
  | [] => []
  | (key, value) :: rest =>
      let inner := if path.isEmpty then writeKey key else path ++ "." ++ writeKey key
      (match value with
        | .table fields =>
            let plain := plainLines fields
            let blocks := tableBlocks inner fields
            if plain.isEmpty && !blocks.isEmpty then blocks
            else ("[" ++ inner ++ "]\n" ++ plain) :: blocks
        | .array items => if isTableArray value then elementBlocks inner items else []
        | _ => []) ++ tableBlocks path rest

/-- The blocks of text of the tables in an array. -/
def elementBlocks (path : String) : List Value → List String
  | [] => []
  | .table fields :: rest =>
      ("[[" ++ path ++ "]]\n" ++ plainLines fields) :: tableBlocks path fields ++
        elementBlocks path rest
  | _ :: rest => elementBlocks path rest

end

mutual

/-- Whether an integer in a value exceeds the range of documents. -/
def Value.isOutOfRange : Value → Bool
  | .integer value => Int64.maxValue.toInt < value
  | .array items => anyOutOfRange items
  | .table fields => anyFieldOutOfRange fields
  | _ => false

/-- Whether an integer in one of the values exceeds the range of documents. -/
def anyOutOfRange : List Value → Bool
  | [] => false
  | value :: rest => value.isOutOfRange || anyOutOfRange rest

/-- Whether an integer in one of the fields exceeds the range of documents. -/
def anyFieldOutOfRange : List (String × Value) → Bool
  | [] => false
  | (_, value) :: rest => value.isOutOfRange || anyFieldOutOfRange rest

end

/-- The text of a document, unless an integer in it exceeds the range of documents. -/
def write? (fields : List (String × Value)) : Option String :=
  if anyFieldOutOfRange fields then none
  else
    let plain := plainLines fields
    let blocks := tableBlocks "" fields
    some (String.intercalate "\n" (if plain.isEmpty then blocks else plain :: blocks))

end Fleet.Toml
