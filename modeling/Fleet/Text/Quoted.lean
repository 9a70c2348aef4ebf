import Fleet.Text.Digits
import Fleet.Text.Visible

/-!
# Quoted text in messages

A message shows a text between quotes. Quotes, backslashes and hidden characters are escaped, so
that what is shown tells the text apart from any other.
-/

namespace Fleet.Text

/-- A character as it is shown between quotes. -/
def showCharacter (character : Char) : List Char :=
  match character with
  | '"' => ['\\', '"']
  | '\\' => ['\\', '\\']
  | '\n' => ['\\', 'n']
  | '\r' => ['\\', 'r']
  | '\t' => ['\\', 't']
  | _ =>
      if character.toNat = 0 then ['\\', '0']
      else if isHidden character then
        ['\\', 'u', '{'] ++ hexDigits character.toNat ++ ['}']
      else [character]

/-- A text as it is shown between quotes. -/
def quoted (text : String) : String :=
  "\"" ++ String.ofList (text.toList.flatMap showCharacter) ++ "\""

end Fleet.Text
