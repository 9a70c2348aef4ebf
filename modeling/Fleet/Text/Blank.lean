/-!
# Blank characters

Configuration values, labels and metric lines are cut at *blank* characters, which are the
characters with the Unicode property `White_Space`. The byte-order mark and the zero-width space
do not have it.
-/

namespace Fleet.Text

/-- Whether a character has the Unicode property `White_Space`. -/
def isBlank (character : Char) : Bool :=
  let code := character.toNat
  (9 ≤ code && code ≤ 13) || code == 0x20 || code == 0x85 || code == 0xA0 || code == 0x1680 ||
    (0x2000 ≤ code && code ≤ 0x200A) || code == 0x2028 || code == 0x2029 || code == 0x202F ||
    code == 0x205F || code == 0x3000

/-- The text without its leading blanks. -/
def trimStart (text : List Char) : List Char :=
  text.dropWhile isBlank

/-- The text without its trailing blanks. -/
def trimEnd : List Char → List Char
  | [] => []
  | character :: rest =>
      match trimEnd rest with
      | [] => if isBlank character then [] else [character]
      | kept => character :: kept

/-- The text without its outer blanks. -/
def trim (text : List Char) : List Char :=
  trimEnd (trimStart text)

/-- The first maximal run of non-blank characters, if there is one. -/
def firstWord? (text : List Char) : Option (List Char) :=
  match (trimStart text).takeWhile (fun character => !isBlank character) with
  | [] => none
  | word => some word

end Fleet.Text
