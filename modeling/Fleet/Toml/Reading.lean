import Fleet.Toml.Scalar

/-!
# Reading configuration documents

A document is a sequence of lines: assignments, table headers, headers of arrays of tables, and
blank lines, each with an optional comment. A table is defined once; the tables on the way to it
come into being with it and may be defined later. A table that dotted keys brought into being can
only be extended by dotted keys.
-/

namespace Fleet.Toml

/-- How a table came into being. -/
inductive Origin where
  /-- By its own header, or as a value. -/
  | defined
  /-- On the way to the table of a header. -/
  | implied
  /-- By dotted keys. -/
  | dotted
  deriving DecidableEq

/-- A part of a document that is being read. -/
inductive Node where
  | leaf (value : Value)
  | table (origin : Origin) (fields : List (String × Node))
  /-- An array of tables, the last table first. -/
  | tables (reversed : List (List (String × Node)))
  deriving Inhabited

/-- The fields of a table under construction. -/
abbrev Fields := List (String × Node)

namespace Fields

/-- The fields with a node stored under a key. -/
def put (key : String) (node : Node) : Fields → Fields
  | [] => [(key, node)]
  | (other, held) :: rest =>
      if other = key then (key, node) :: rest else (other, held) :: put key node rest

/-- The fields after a change of the table at a path of header keys. -/
def changeAt (change : Fields → Option Fields) : (path : List String) → Fields → Option Fields
  | [], fields => change fields
  | key :: path, fields => do
      match fields.lookup key with
      | none => return put key (.table .implied (← changeAt change path [])) fields
      | some (.leaf _) => none
      | some (.table origin inner) =>
          return put key (.table origin (← changeAt change path inner)) fields
      | some (.tables []) => none
      | some (.tables (last :: earlier)) =>
          return put key (.tables ((← changeAt change path last) :: earlier)) fields

/-- The fields after the assignment of a value to a dotted key. -/
def assign (value : Value) : (key : String) → (rest : List String) → Fields → Option Fields
  | key, [], fields =>
      match fields.lookup key with
      | none => some (put key (.leaf value) fields)
      | some _ => none
  | key, next :: rest, fields => do
      match fields.lookup key with
      | none => return put key (.table .dotted (← assign value next rest [])) fields
      | some (.table .dotted inner) =>
          return put key (.table .dotted (← assign value next rest inner)) fields
      | some (.table .implied inner) =>
          if rest.isEmpty then none
          else return put key (.table .implied (← assign value next rest inner)) fields
      | some (.tables (last :: earlier)) =>
          if rest.isEmpty then none
          else return put key (.tables ((← assign value next rest last) :: earlier)) fields
      | some _ => none

/-- The fields after the header of a table with a last key. -/
def openTable (key : String) (fields : Fields) : Option Fields :=
  match fields.lookup key with
  | none => some (put key (.table .defined []) fields)
  | some (.table .implied inner) => some (put key (.table .defined inner) fields)
  | some _ => none

/-- The fields after the header of an array of tables with a last key. -/
def openElement (key : String) (fields : Fields) : Option Fields :=
  match fields.lookup key with
  | none => some (put key (.tables [[]]) fields)
  | some (.tables elements) => some (put key (.tables ([] :: elements)) fields)
  | some _ => none

end Fields

mutual

/-- The value of a finished node. -/
def Node.value : Node → Value
  | .leaf value => value
  | .table _ fields => .table (fieldValues fields)
  | .tables reversed => .array (elementValues reversed).reverse

/-- The values of finished fields. -/
def fieldValues : List (String × Node) → List (String × Value)
  | [] => []
  | (key, node) :: rest => (key, node.value) :: fieldValues rest

/-- The values of finished tables. -/
def elementValues : List (List (String × Node)) → List Value
  | [] => []
  | fields :: rest => .table (fieldValues fields) :: elementValues rest

end

/-- Whether a character may belong to a key without quotes. -/
def isKeyCharacter (character : Char) : Bool :=
  Text.isAlphanumeric character || character == '_' || character == '-'

/-- One key without dots. -/
def readSimpleKey? (text : List Char) : Option (String × List Char) :=
  match text with
  | '"' :: rest =>
      (readBasic? text.length rest).map fun (key, rest) => (String.ofList key, rest)
  | '\'' :: rest => (readLiteral? rest).map fun (key, rest) => (String.ofList key, rest)
  | _ =>
      let key := text.takeWhile isKeyCharacter
      if key.isEmpty then none else some (String.ofList key, text.dropWhile isKeyCharacter)

/-- The parts of a key between its dots, the first one apart; spaces may surround each part. -/
def readKeyParts? : (fuel : Nat) → List Char → Option ((String × List String) × List Char)
  | 0, _ => none
  | fuel + 1, text => do
      let (key, rest) ← readSimpleKey? (skipSpaces text)
      match skipSpaces rest with
      | '.' :: after =>
          let ((next, others), rest) ← readKeyParts? fuel after
          return ((key, next :: others), rest)
      | rest => return ((key, []), rest)

/-- How deep arrays and inline tables may nest, and how many parts a key may have. -/
def nestingLimit : Nat := 79

/-- A key with its dots, as its first part and the others. -/
def readKey? (text : List Char) : Option ((String × List String) × List Char) :=
  (readKeyParts? text.length text).filter fun ((_, others), _) => others.length < nestingLimit

/-- The text after a comment, which ends before the line does. -/
def skipComment : List Char → List Char
  | '#' :: rest => rest.dropWhile isPrintable
  | text => text

/-- The text without leading spaces, line ends and comments. -/
def skipFiller : (fuel : Nat) → List Char → List Char
  | 0, text => text
  | fuel + 1, text =>
      match skipSpaces text with
      | '#' :: rest => skipFiller fuel (skipComment ('#' :: rest))
      | rest =>
          match dropLineEnd? rest with
          | some rest => skipFiller fuel rest
          | none => rest

mutual

/-- A value; arrays and inline tables nest less than `depth` deep. -/
def readValue? : (depth fuel : Nat) → List Char → Option (Value × List Char)
  | _, 0, _ => none
  | depth, fuel + 1, text =>
      match text with
      | '"' :: _ | '\'' :: _ => (readText? text).map fun (value, rest) => (.text value, rest)
      | '[' :: rest =>
          match depth with
          | depth + 1 =>
              (readArray? depth fuel rest).map fun (items, rest) => (.array items, rest)
          | 0 => none
      | '{' :: rest =>
          match depth, skipSpaces rest with
          | _ + 1, '}' :: after => some (.table [], after)
          | depth + 1, _ =>
              (readInline? depth fuel [] rest).map fun (fields, rest) =>
                (.table (fieldValues fields), rest)
          | 0, _ => none
      | 't' :: 'r' :: 'u' :: 'e' :: rest => some (.boolean true, rest)
      | 'f' :: 'a' :: 'l' :: 's' :: 'e' :: rest => some (.boolean false, rest)
      | _ => readNumeric? text

/-- The items of an array up to its closing bracket. A comma may follow the last one. -/
def readArray? : (depth fuel : Nat) → List Char → Option (List Value × List Char)
  | _, 0, _ => none
  | depth, fuel + 1, text =>
      match skipFiller text.length text with
      | ']' :: rest => some ([], rest)
      | start => do
          let (value, rest) ← readValue? depth fuel start
          match skipFiller rest.length rest with
          | ']' :: rest => return ([value], rest)
          | ',' :: rest =>
              let (values, rest) ← readArray? depth fuel rest
              return (value :: values, rest)
          | _ => none

/-- The fields of an inline table, at least one more, up to its closing brace. -/
def readInline? : (depth fuel : Nat) → Fields → List Char → Option (Fields × List Char)
  | _, 0, _, _ => none
  | depth, fuel + 1, fields, text => do
      let ((key, others), rest) ← readKey? text
      let (value, rest) ← readValue? depth fuel (skipSpaces (← dropCharacter? '=' rest))
      let fields ← fields.assign value key others
      match skipSpaces rest with
      | '}' :: rest => return (fields, rest)
      | ',' :: rest => readInline? depth fuel fields rest
      | _ => none

end

/-- A document that is being read: its fields, and the path of the table that assignments go to. -/
structure Draft where
  fields : Fields := []
  path : List String := []

/-- The draft after the part of a line that is not comment, and the rest of the line. -/
def Draft.readExpression? (draft : Draft) (text : List Char) : Option (Draft × List Char) :=
  match text with
  | [] | '#' :: _ | '\n' :: _ | '\r' :: _ => some (draft, text)
  | '[' :: '[' :: rest => do
      let ((key, others), rest) ← readKey? rest
      let rest ← Text.dropHead? [']', ']'] rest
      let path := key :: others
      let fields ← draft.fields.changeAt (Fields.openElement (path.getLast?.getD key)) path.dropLast
      return ({ fields, path }, rest)
  | '[' :: rest => do
      let ((key, others), rest) ← readKey? rest
      let rest ← dropCharacter? ']' rest
      let path := key :: others
      let fields ← draft.fields.changeAt (Fields.openTable (path.getLast?.getD key)) path.dropLast
      return ({ fields, path }, rest)
  | _ => do
      let ((key, others), rest) ← readKey? text
      let (value, rest) ← readValue? nestingLimit text.length
        (skipSpaces (← dropCharacter? '=' rest))
      let fields ← draft.fields.changeAt (Fields.assign value key others) draft.path
      return ({ draft with fields }, rest)

/-- The draft after all lines of a text. -/
def Draft.readLines? : (fuel : Nat) → Draft → List Char → Option Draft
  | 0, _, _ => none
  | fuel + 1, draft, text => do
      let (draft, rest) ← draft.readExpression? (skipSpaces text)
      let rest := skipComment (skipSpaces rest)
      if rest.isEmpty then return draft else Draft.readLines? fuel draft (← dropLineEnd? rest)

/-- The table that a document denotes. A byte-order mark may precede it. -/
def read? (text : String) : Option (List (String × Value)) :=
  let characters :=
    match text.toList with
    | '\uFEFF' :: rest => rest
    | characters => characters
  (Draft.readLines? (characters.length + 1) {} characters).map fun draft =>
    fieldValues draft.fields

end Fleet.Toml
