import Fleet.Cluster.Process
import Fleet.Text.Blank
import Fleet.Text.Cut
import Fleet.Text.Digits

/-!
# A rehearsed shell

The commands of rehearsed containers run in a small shell: lists of simple commands with quotes,
parameters, assignments and redirections, and a handful of commands that need nothing outside of
the shell. Every other command is not found.
-/

namespace Fleet.Rehearsal.Shell

/-- A part of a word. -/
inductive Piece where
  | literal (text : String)
  /-- The value of a parameter. -/
  | parameter (name : String)
  deriving DecidableEq

/-- When a command runs, by the status of the one before it. -/
inductive Condition where
  | always
  | afterSuccess
  | afterFailure
  deriving DecidableEq

/-- What the shell reads. -/
inductive Token where
  | word (pieces : List Piece)
  /-- The end of a command, and when the next one runs. -/
  | next (condition : Condition)
  /-- Sends a stream to where another one goes. -/
  | duplicate (stream other : Char)
  /-- Sends a stream to the file that the next word names. -/
  | divert (stream : Char)
  deriving DecidableEq

/-- How characters are read: as they are outside of quotes, or between quotes of one kind. -/
inductive Mode where
  | plain
  | single
  | double
  deriving DecidableEq

/-- Whether a character can be part of a parameter's name. -/
def isNameCharacter (character : Char) : Bool :=
  Text.isAlphanumeric character || character = '_'

/-- The parameter that follows a dollar sign, and the rest of the text. -/
def takeParameter? : List Char → Option (String × List Char)
  | '{' :: rest => (Text.cutAt? ['}'] rest).map fun (name, rest) => (String.ofList name, rest)
  | '$' :: rest => some ("$", rest)
  | '?' :: rest => some ("?", rest)
  | text =>
      let name := text.takeWhile isNameCharacter
      if name.isEmpty then none else some (String.ofList name, text.dropWhile isNameCharacter)

/-- Adds a piece to the word that is being read. -/
def extend (word : Option (List Piece)) (piece : Piece) : Option (List Piece) :=
  some (word.getD [] ++ [piece])

/-- The token of the word that was read, if there is one. -/
def finishWord (word : Option (List Piece)) : List Token :=
  match word with
  | none => []
  | some pieces => [.word pieces]

/-- The tokens of a text, in at most the given number of steps. -/
def tokens (mode : Mode) (word : Option (List Piece)) : (steps : Nat) → List Char → List Token
  | 0, _ | _, [] => finishWord word
  | steps + 1, character :: rest =>
      let literal (character : Char) (rest : List Char) : List Token :=
        tokens mode (extend word (.literal (String.singleton character))) steps rest
      let endWith (token : Token) (rest : List Char) : List Token :=
        finishWord word ++ token :: tokens .plain none steps rest
      match mode, character, rest with
      | .single, '\'', _ => tokens .plain (extend word (.literal "")) steps rest
      | .single, _, _ => literal character rest
      | .double, '"', _ => tokens .plain (extend word (.literal "")) steps rest
      | .double, '\\', escaped :: rest =>
          if ['$', '"', '\\', '\x60'].contains escaped then literal escaped rest
          else tokens mode (extend word (.literal (String.ofList ['\\', escaped]))) steps rest
      | .plain, '\'', _ => tokens .single (extend word (.literal "")) steps rest
      | .plain, '"', _ => tokens .double (extend word (.literal "")) steps rest
      | .plain, '\\', escaped :: rest => literal escaped rest
      | .plain, '&', '&' :: rest => endWith (.next .afterSuccess) rest
      | .plain, '|', '|' :: rest => endWith (.next .afterFailure) rest
      | .plain, '>', '&' :: other :: rest => endWith (.duplicate '1' other) rest
      | .plain, '>', '>' :: rest => endWith (.divert '1') rest
      | .plain, '>', _ => endWith (.divert '1') rest
      | .plain, '2', '>' :: '&' :: other :: after =>
          if word.isNone then endWith (.duplicate '2' other) after else literal '2' rest
      | .plain, '2', '>' :: after =>
          if word.isNone then endWith (.divert '2') after else literal '2' rest
      | .plain, '1', '>' :: after =>
          if word.isNone then tokens mode none steps ('>' :: after) else literal '1' rest
      | .plain, '#', _ =>
          if word.isNone then tokens mode none steps (rest.dropWhile (· ≠ '\n'))
          else literal '#' rest
      | _, '$', _ =>
          match takeParameter? rest with
          | some (name, rest) => tokens mode (extend word (.parameter name)) steps rest
          | none => literal '$' rest
      | .plain, _, _ =>
          if character = ';' || character = '\n' then endWith (.next .always) rest
          else if Text.isBlank character then finishWord word ++ tokens mode none steps rest
          else literal character rest
      | .double, _, _ => literal character rest

/-- A simple command. -/
structure Command where
  condition : Condition
  words : List (List Piece) := []
  /-- Where the standard output goes: to a stream, or nowhere. -/
  output : Option Char := some '1'
  /-- Where the error output goes. -/
  errors : Option Char := some '2'

/-- The command with a stream sent elsewhere. -/
def Command.redirect (command : Command) (stream : Char) (target : Option Char) : Command :=
  if stream = '1' then { command with output := target } else { command with errors := target }

/-- Where a stream of a command goes. -/
def Command.target (command : Command) (stream : Char) : Option Char :=
  if stream = '1' then command.output else command.errors

/-- The commands of a list of tokens, given the one that is being read. -/
def commands (current : Command) : List Token → List Command
  | [] => [current]
  | .word pieces :: rest =>
      commands { current with words := current.words ++ [pieces] } rest
  | .next condition :: rest => current :: commands { condition } rest
  | .duplicate stream other :: rest =>
      commands (current.redirect stream (current.target other)) rest
  | .divert stream :: .word _ :: rest => commands (current.redirect stream none) rest
  | .divert stream :: rest => commands (current.redirect stream none) rest

/-- The state of a running shell. -/
structure State where
  parameters : List (String × String)
  status : Nat := 0
  output : String := ""
  errors : String := ""
  ending : Option ProcessEnding := none

namespace State

/-- The value of a parameter. -/
def value (state : State) (name : String) : String :=
  if name = "?" then Nat.repr state.status else (state.parameters.lookup name).getD ""

/-- A word with the values of its parameters. -/
def expand (state : State) (word : List Piece) : String :=
  String.join <| word.map fun
    | .literal text => text
    | .parameter name => if name = "$" then "$$" else state.value name

/-- The state after a text was written to a stream. -/
def write (state : State) (stream : Option Char) (text : String) : State :=
  match stream with
  | some '1' => { state with output := state.output ++ text }
  | some '2' => { state with errors := state.errors ++ text }
  | _ => state

/-- The state after a command with a status. -/
def finish (state : State) (status : Nat) : State := { state with status := status }

end State

/-- The number of a signal, given by its number or its name. -/
def signal? (text : String) : Option Nat :=
  match Text.readDigits? text.toList with
  | some number => some number
  | none => (signalNames.findIdx? (· = text)).map (· + 1)

/-- Runs one command on its expanded words. -/
def perform (command : Command) (state : State) : List String → State
  | [] => state.finish 0
  | "true" :: _ | ":" :: _ | "sleep" :: _ | "wait" :: _ => state.finish 0
  | "false" :: _ => state.finish 1
  | "exec" :: rest => perform command state rest
  | ["exit"] => { state with ending := some (.exited state.status) }
  | "exit" :: code :: _ =>
      match Text.readDigits? code.toList with
      | some code => { state with ending := some (.exited (code % 256)) }
      | none =>
          { state.write command.errors ("sh: 1: exit: Illegal number: " ++ code ++ "\n") with
            ending := some (.exited 2) }
  | "echo" :: "-n" :: rest =>
      (state.write command.output (String.intercalate " " rest)).finish 0
  | "echo" :: rest =>
      (state.write command.output (String.intercalate " " rest ++ "\n")).finish 0
  | ["kill", "$$"] => { state with ending := some (.signalled 15) }
  | ["kill", "-s", name, "$$"] =>
      match signal? name with
      | some number => { state with ending := some (.signalled number) }
      | none => state.finish 1
  | ["kill", option, "$$"] =>
      match signal? (String.ofList (option.toList.drop 1)) with
      | some number => { state with ending := some (.signalled number) }
      | none => state.finish 1
  | name :: _ => (state.write command.errors ("sh: 1: " ++ name ++ ": not found\n")).finish 127

/-- The assignment that a word makes. -/
def assignment? (word : String) : Option (String × String) :=
  (Text.cutAt? ['='] word.toList).bind fun (name, value) =>
    if !name.isEmpty && name.all isNameCharacter then
      some (String.ofList name, String.ofList value)
    else none

/-- Runs a command, unless the shell has ended or the condition of the command does not hold. -/
def runCommand (state : State) (command : Command) : State :=
  let holds :=
    match command.condition with
    | .always => true
    | .afterSuccess => state.status = 0
    | .afterFailure => state.status ≠ 0
  if state.ending.isSome || !holds || command.words.isEmpty then state
  else
    let words := command.words.map state.expand
    match words.mapM assignment? with
    | some assignments =>
        { state with parameters := assignments.reverse ++ state.parameters, status := 0 }
    | none => perform command state (words.dropWhile fun word => (assignment? word).isSome)

/-- Runs a text of commands with parameters. -/
def run (parameters : List (String × String)) (text : String) : State :=
  let characters := text.toList
  (commands { condition := .always } (tokens .plain none (characters.length + 1) characters)).foldl
    runCommand { parameters := parameters }

/-- How a shell that has run all its commands ended. -/
def State.lastEnding (state : State) : ProcessEnding :=
  state.ending.getD (.exited state.status)

end Fleet.Rehearsal.Shell
