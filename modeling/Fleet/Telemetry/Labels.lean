import Fleet.Text.Blank
import Fleet.Text.Cut

/-!
# Labels of a metric line

A label block is a brace, labels `key="value"` with commas and blanks anywhere between them, and a
closing brace. Inside a value a backslash takes the next character literally, except that `n`
stands for a line feed.
-/

namespace Fleet.Telemetry

/-- A label: its key and its value. -/
abbrev Label := String × String

namespace Label

/-- Whether a character may stand between labels. -/
def isSeparator (character : Char) : Bool :=
  character == ',' || Text.isBlank character

/-- Whether a character may belong to a key. -/
def isKeyCharacter (character : Char) : Bool :=
  character != '=' && !Text.isBlank character

/-- The character that a backslash and the given character stand for. -/
def unescape (character : Char) : Char :=
  if character = 'n' then '\n' else character

/-- The value up to its closing quote, and the text after the quote. -/
def readValue? : List Char → Option (List Char × List Char)
  | [] => none
  | '"' :: rest => some ([], rest)
  | '\\' :: character :: rest =>
      (readValue? rest).map fun (value, after) => (unescape character :: value, after)
  | character :: rest =>
      if character = '\\' then none
      else (readValue? rest).map fun (value, after) => (character :: value, after)

/-- One label at the start of the text, and the text after it. The key reaches up to an equals
sign or a blank, and must not be empty. -/
def read? (text : List Char) : Option (Label × List Char) :=
  let key := text.takeWhile isKeyCharacter
  match Text.trimStart (text.dropWhile isKeyCharacter) with
  | '=' :: afterEquals =>
      match Text.trimStart afterEquals with
      | '"' :: afterQuote =>
          match readValue? afterQuote with
          | some (value, after) =>
              if key.isEmpty then none
              else some ((String.ofList key, String.ofList value), after)
          | none => none
      | _ => none
  | _ => none

/-- Labels up to the closing brace, and the text after the brace. Each label takes at least one
character, so as much fuel as characters is enough. -/
def readUpToBrace? : (fuel : Nat) → List Char → Option (List Label × List Char)
  | 0, _ => none
  | fuel + 1, text =>
      match text.dropWhile isSeparator with
      | [] => none
      | '}' :: rest => some ([], rest)
      | start =>
          match read? start with
          | none => none
          | some (label, after) =>
              (readUpToBrace? fuel after).map fun (labels, rest) => (label :: labels, rest)

/-- The labels of a block at the start of the text, and the text after it. -/
def readBlock? : List Char → Option (List Label × List Char)
  | '{' :: text => readUpToBrace? (text.length + 1) text
  | _ => none

/-- The labels of a block at the start of the text, and the number of bytes of the block, which
ends one byte after the place of its closing brace. -/
def measureBlock? (text : List Char) : Option (List Label × Nat) :=
  (readBlock? text).map fun (labels, after) =>
    (labels, Text.byteLength text - Text.byteLength ('}' :: after) + 1)

end Label

end Fleet.Telemetry
