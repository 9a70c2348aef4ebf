import Fleet.Decimal.Layout

/-!
# Status documents

Status documents are written in JSON: compactly, with the fields of a record in their given order.
-/

namespace Fleet.Json

/-- A JSON value. -/
inductive Value where
  | null
  | boolean (value : Bool)
  /-- A number without sign, fraction and exponent. -/
  | whole (value : Nat)
  /-- Any other number. -/
  | real (value : Binary64)
  | text (value : String)
  | list (items : List Value)
  | record (fields : List (String × Value))
  /-- A well-formed value that stands for no text or number: a text with half a surrogate pair, or
  a number beyond the range of floating-point numbers. -/
  | unreadable
  deriving Inhabited

/-- A character of a text: quotes, backslashes and control characters are escaped. -/
def escapeCharacter (character : Char) : List Char :=
  match character with
  | '"' => ['\\', '"']
  | '\\' => ['\\', '\\']
  | '\n' => ['\\', 'n']
  | '\r' => ['\\', 'r']
  | '\t' => ['\\', 't']
  | _ =>
      let code := character.toNat
      if code = 8 then ['\\', 'b']
      else if code = 12 then ['\\', 'f']
      else if code < 16 then "\\u000".toList ++ Text.hexDigits code
      else if code < 32 then "\\u00".toList ++ Text.hexDigits code
      else [character]

/-- A text between quotes. -/
def quoted (text : String) : String :=
  "\"" ++ String.ofList (text.toList.flatMap escapeCharacter) ++ "\""

mutual

/-- The text of a value. -/
def Value.write : Value → String
  | .null | .unreadable => "null"
  | .boolean value => if value then "true" else "false"
  | .whole value => Nat.repr value
  | .real value => String.ofList (Decimal.document.write value)
  | .text value => quoted value
  | .list items => "[" ++ String.intercalate "," (writeItems items) ++ "]"
  | .record fields => "\x7b" ++ String.intercalate "," (writeFields fields) ++ "\x7d"

/-- The texts of the items of a list. -/
def writeItems : List Value → List String
  | [] => []
  | value :: rest => value.write :: writeItems rest

/-- The texts of the fields of a record. -/
def writeFields : List (String × Value) → List String
  | [] => []
  | (name, value) :: rest => (quoted name ++ ":" ++ value.write) :: writeFields rest

end

/-- A value that may be absent. -/
def optional {Item : Type} (encode : Item → Value) : Option Item → Value
  | none => .null
  | some item => encode item

end Fleet.Json
