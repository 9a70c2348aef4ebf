/-!
# Cutting text

Functions that take a text apart at a fixed piece of text.
-/

namespace Fleet.Text

/-- What follows `head` at the start of the text, if the text starts with it. -/
def dropHead? : (head text : List Char) → Option (List Char)
  | [], text => some text
  | _ :: _, [] => none
  | expected :: head, character :: text =>
      if expected = character then dropHead? head text else none

/-- What precedes `tail` at the end of the text, if the text ends with it. -/
def dropTail? (tail text : List Char) : Option (List Char) :=
  (dropHead? tail.reverse text.reverse).map List.reverse

/-- The parts before and after the first occurrence of `separator`. -/
def cutAt? (separator : List Char) : (text : List Char) → Option (List Char × List Char)
  | [] => if separator.isEmpty then some ([], []) else none
  | character :: rest =>
      match dropHead? separator (character :: rest) with
      | some after => some ([], after)
      | none => (cutAt? separator rest).map fun (before, after) => (character :: before, after)

/-- The text without the trailing characters that satisfy `drop`. -/
def dropTrailing (drop : Char → Bool) (text : List Char) : List Char :=
  (text.reverse.dropWhile drop).reverse

/-- The pieces between the occurrences of one character, one more than there are occurrences. -/
def splitAt (separator : Char) : (text : List Char) → List (List Char)
  | [] => [[]]
  | character :: rest =>
      if character = separator then [] :: splitAt separator rest
      else
        match splitAt separator rest with
        | [] => [[character]]
        | piece :: pieces => (character :: piece) :: pieces

/-- The lines of a text, without their terminators. A line ends at a line feed, or at a carriage
return followed by a line feed; a text that ends with a terminator has no further empty line. -/
def lines (text : List Char) : List (List Char) :=
  let pieces := splitAt '\n' text
  let withoutReturn (line : List Char) : List Char := (dropTail? ['\r'] line).getD line
  match pieces.reverse with
  | [] => []
  | last :: terminated =>
      (terminated.reverse.map withoutReturn) ++ (if last.isEmpty then [] else [last])

/-- The number of bytes of a text. -/
def byteLength (text : List Char) : Nat :=
  (String.ofList text).utf8ByteSize

/-- What follows the first bytes of a text, if they are whole characters. -/
def dropBytes? : (count : Nat) → (text : List Char) → Option (List Char)
  | 0, text => some text
  | _ + 1, [] => none
  | count + 1, character :: rest =>
      if character.utf8Size ≤ count + 1 then dropBytes? (count + 1 - character.utf8Size) rest
      else none

end Fleet.Text
