/-!
# Arguments of a command

Options and what stands between them.

An option has a name behind two dashes, and most have a letter behind one. Several letters may share
a dash. The value of an option is the next argument, whatever that looks like, unless it is
attached: to the name by an equals sign, to the letter directly. Behind two dashes alone nothing is
an option.
-/

namespace SchemaMigration.CommandLine

/-- An option that a command has. -/
structure OptionSpec where
  name : String
  letter : Option Char
  takesValue : Bool
  deriving DecidableEq

/-- What is wrong with a command line. -/
inductive UsageFault where
  | unknownCommand (name : String)
  | unknownOption (text : String)
  | missingValue (name : String)
  | unexpectedValue (name : String)
  | extraArgument (text : String)
  | unknownFormat (name : String)
  deriving DecidableEq

/-- The text that reports a fault. -/
def UsageFault.message : UsageFault → String
  | unknownCommand name => "No such command '" ++ name ++ "'."
  | unknownOption text => "No such option: " ++ text
  | missingValue name => "Option '--" ++ name ++ "' requires an argument."
  | unexpectedValue name => "Option '--" ++ name ++ "' does not take a value."
  | extraArgument text => "Got unexpected extra argument (" ++ text ++ ")"
  | unknownFormat name => "Invalid format '" ++ name ++ "'. Must be 'json' or 'yaml'."

/-- One use of an option: its name, and its value if it takes one. -/
abbrev Setting := String × Option String

/-- The uses of options and the other arguments, each in order. -/
structure Arguments where
  settings : List Setting
  positionals : List String

namespace Arguments

/-- More settings in front. -/
def withSettings (args : Arguments) (settings : List Setting) : Arguments :=
  { args with settings := settings ++ args.settings }

/-- One more argument in front that is no option. -/
def withPositional (args : Arguments) (text : String) : Arguments :=
  { args with positionals := text :: args.positionals }

/-- Is an option used? -/
def has (args : Arguments) (name : String) : Bool :=
  args.settings.any (·.1 = name)

/-- The value of an option; the last use counts. -/
def value? (args : Arguments) (name : String) : Option String :=
  (args.settings.reverse.find? (·.1 = name)).bind (·.2)

/-- The value of an option that counts as not used if the value is empty. -/
def nonEmpty? (args : Arguments) (name : String) : Option String :=
  (args.value? name).filter (· ≠ "")

end Arguments

/-! ### One argument -/

/-- Does an argument use options? A dash alone does not. -/
def isOption (arg : String) : Bool :=
  match arg.toList with
  | '-' :: _ :: _ => true
  | _ => false

/-- The options that letters behind one dash use, and the one that still needs a value. -/
def ofLetters (specs : List OptionSpec) :
    List Char → Except UsageFault (List Setting × Option OptionSpec)
  | [] => .ok ([], none)
  | letter :: rest =>
    match specs.find? (·.letter = some letter) with
    | none => .error (.unknownOption (String.ofList ['-', letter]))
    | some spec =>
      if !spec.takesValue then do
        let (settings, pending) ← ofLetters specs rest
        return ((spec.name, none) :: settings, pending)
      else if rest.isEmpty then .ok ([], some spec)
      else .ok ([(spec.name, some (String.ofList rest))], none)

/-- The option that a name behind two dashes uses, and that option if it still needs a value. A
value may be attached by an equals sign. -/
def ofName (specs : List OptionSpec) (text : List Char) :
    Option (Except UsageFault (List Setting × Option OptionSpec)) := do
  let name := String.ofList (text.takeWhile (· ≠ '='))
  let spec ← specs.find? (·.name = name)
  return match text.dropWhile (· ≠ '='), spec.takesValue with
    | _ :: attached, true => .ok ([(spec.name, some (String.ofList attached))], none)
    | _ :: _, false => .error (.unexpectedValue spec.name)
    | [], true => .ok ([], some spec)
    | [], false => .ok ([(spec.name, none)], none)

/-- The options that an argument uses, and the one that still needs a value. -/
def ofArgument (specs : List OptionSpec) (arg : String) :
    Except UsageFault (List Setting × Option OptionSpec) :=
  match arg.toList with
  | '-' :: '-' :: text => (ofName specs text).getD (.error (.unknownOption arg))
  | _ :: letters => ofLetters specs letters
  | [] => .error (.unknownOption arg)

/-! ### All arguments -/

/-- The arguments of a command, some option of which may still need a value. -/
def Arguments.scan (specs : List OptionSpec) :
    Option OptionSpec → List String → Except UsageFault Arguments
  | none, [] => .ok ⟨[], []⟩
  | some spec, [] => .error (.missingValue spec.name)
  | some spec, value :: rest => do
    return (← scan specs none rest).withSettings [(spec.name, some value)]
  | none, arg :: rest =>
    if arg = "--" then .ok ⟨[], rest⟩
    else if isOption arg then do
      let (settings, pending) ← ofArgument specs arg
      return (← scan specs pending rest).withSettings settings
    else do return (← scan specs none rest).withPositional arg

/-- The settings in front of the first argument that is no option, and the arguments from there on.
None of the options takes a value. -/
def leading (specs : List OptionSpec) : List String → Except UsageFault (List Setting × List String)
  | [] => .ok ([], [])
  | arg :: rest =>
    if arg = "--" then .ok ([], rest)
    else if isOption arg then do
      let (settings, _) ← ofArgument specs arg
      let (others, rest) ← leading specs rest
      return (settings ++ others, rest)
    else .ok ([], arg :: rest)

end SchemaMigration.CommandLine
