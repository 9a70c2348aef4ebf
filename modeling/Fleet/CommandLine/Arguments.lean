import Fleet.Text.Cut

/-!
# Arguments of a command

An option is given by its name after two dashes or by its letter after one. Its value is attached,
after an equals sign where the name is used, or it is the next argument; a value in an argument of
its own does not start with a dash. Two dashes alone end the options.
-/

namespace Fleet.CommandLine

/-- How one option is given. An option with a letter takes a value. -/
structure OptionForm where
  name : String
  letter : Option Char := none
  takesValue : Bool := true
  /-- Whether the option may be given more than once. -/
  isRepeatable : Bool := false

/-- What one argument is. -/
inductive Argument where
  | endOfOptions
  | named (name : String) (attached : Option String)
  | lettered (letter : Char) (attached : Option String)
  | plain (text : String)
  deriving DecidableEq

/-- The argument that a text is. A dash alone is plain. -/
def Argument.ofText (text : String) : Argument :=
  match text.toList with
  | ['-', '-'] => .endOfOptions
  | '-' :: '-' :: rest =>
      match Text.cutAt? ['='] rest with
      | some (name, value) => .named (String.ofList name) (some (String.ofList value))
      | none => .named (String.ofList rest) none
  | ['-', letter] => .lettered letter none
  | '-' :: letter :: '=' :: value => .lettered letter (some (String.ofList value))
  | '-' :: letter :: value => .lettered letter (some (String.ofList value))
  | _ => .plain text

/-- The options given by arguments, each with its value, in their order. An option that awaits its
value takes the next argument. Nothing is read from arguments that do not follow the forms. -/
def readOptions? (forms : List OptionForm) (awaiting : Option String) :
    List String → Option (List (String × String))
  | [] => if awaiting.isNone then some [] else none
  | argument :: rest =>
      let given (name value : String) : Option (List (String × String)) :=
        (readOptions? forms none rest).map ((name, value) :: ·)
      match Argument.ofText argument, awaiting with
      | .plain text, some name => given name text
      | .named name attached, none =>
          match forms.find? (·.name = name), attached with
          | some form, some value => if form.takesValue then given name value else none
          | some form, none =>
              if form.takesValue then readOptions? forms (some name) rest else given name ""
          | none, _ => none
      | .lettered letter attached, none =>
          match forms.find? (·.letter = some letter), attached with
          | some form, some value => given form.name value
          | some form, none => readOptions? forms (some form.name) rest
          | none, _ => none
      | .endOfOptions, none => if rest.isEmpty then some [] else none
      | _, _ => none

/-- Whether no option is given more often than it may be. -/
def respectsCounts (forms : List OptionForm) (given : List (String × String)) : Bool :=
  forms.all fun form =>
    form.isRepeatable || (given.filter (·.1 = form.name)).length ≤ 1

/-- The options given by arguments, where each one is given as often as it may be. -/
def options? (forms : List OptionForm) (arguments : List String) :
    Option (List (String × String)) :=
  (readOptions? forms none arguments).filter (respectsCounts forms)

end Fleet.CommandLine
