import Fleet.Binary64.Reading
import Fleet.Telemetry.Labels
import Fleet.Text.Cut

/-!
# Reading metrics

The text that an inference server publishes holds one sample on each line: a name, an optional
label block and a value. Comments and malformed lines are left out, and what follows the value on
a line is ignored.
-/

namespace Fleet.Telemetry

/-- One reading of a metric. -/
structure Sample where
  name : String
  labels : List Label
  value : Binary64
  deriving DecidableEq

namespace Sample

/-- The value of the first label with the given key. -/
def label? (sample : Sample) (key : String) : Option String :=
  sample.labels.lookup key

/-- Whether a character may belong to the name of a metric. -/
def isNameCharacter (character : Char) : Bool :=
  Text.isAlphanumeric character || character == '_' || character == ':'

/-- Whether a character belongs to what stands before the labels and the value. -/
def precedesLabels (character : Char) : Bool :=
  character != '{' && !Text.isBlank character

/-- The value at the start of what follows the name and the labels. -/
def readValue? (text : List Char) : Option Binary64 :=
  (Text.firstWord? text).bind Binary64.ofText?

/-- The sample on a line, if there is a well-formed one. -/
def ofLine? (line : List Char) : Option Sample :=
  let line := Text.trim line
  if line.head? = some '#' then none
  else
    let name := line.takeWhile precedesLabels
    let rest := line.dropWhile precedesLabels
    if name.isEmpty || !name.all isNameCharacter then none
    else
      let block :=
        match rest with
        | '{' :: _ =>
            (Label.measureBlock? rest).bind fun (labels, count) =>
              (Text.dropBytes? count rest).map fun afterLabels => (labels, afterLabels)
        | _ => some ([], rest)
      match block with
      | none => none
      | some (labels, afterLabels) =>
          (readValue? afterLabels).map fun value => ⟨String.ofList name, labels, value⟩

end Sample

/-- The samples of the well-formed lines of a text, in order. -/
def readExposition (text : String) : List Sample :=
  (Text.lines text.toList).filterMap Sample.ofLine?

end Fleet.Telemetry
