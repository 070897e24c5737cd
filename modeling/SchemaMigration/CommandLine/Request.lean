import SchemaMigration.CommandLine.Arguments
import SchemaMigration.Files.Path
import SchemaMigration.OutputFormat

/-!
# What a command line asks for

There are three commands. Each works on one file of statements; without a file, as without a
command, help is asked for.
-/

namespace SchemaMigration.CommandLine

/-- The commands. -/
inductive Command where
  /-- Writes the script of a batch. -/
  | render
  /-- Shows the dependency edges of a batch. -/
  | deps
  /-- Checks that the statements of a batch are SQL. -/
  | validate
  deriving DecidableEq

/-- What can be asked of rendering. -/
structure RenderOptions where
  /-- The dialect that statements are checked against. -/
  dialect : Option String
  /-- Is every statement to be checked? -/
  validate : Bool
  /-- The file that the script is written to. -/
  output : Option FilePath
  /-- The dialect that statements are converted to. -/
  target : Option String

/-- What a command line asks for. -/
inductive Request where
  | help
  | render (file : FilePath) (options : RenderOptions) (verbose : Bool)
  | deps (file : FilePath) (format : Option OutputFormat) (verbose : Bool)
  | validate (file : FilePath) (dialect : Option String) (verbose : Bool)

/-- Is everything that is logged to be shown? -/
def Request.isVerbose : Request → Bool
  | help => false
  | render _ _ verbose => verbose
  | deps _ _ verbose => verbose
  | validate _ _ verbose => verbose

/-! ### Options -/

namespace OptionSpec

def help : OptionSpec := ⟨"help", none, false⟩

def verbose : OptionSpec := ⟨"verbose", some 'v', false⟩

def dialect : OptionSpec := ⟨"dialect", some 'd', true⟩

def validate : OptionSpec := ⟨"validate", none, false⟩

def output : OptionSpec := ⟨"output", some 'o', true⟩

def target : OptionSpec := ⟨"to-dialect", some 't', true⟩

def format : OptionSpec := ⟨"format", some 'f', true⟩

end OptionSpec

namespace Command

/-- The name of a command. -/
def name : Command → String
  | render => "render"
  | deps => "deps"
  | validate => "validate"

/-- The command of a name. -/
def ofName? (text : String) : Option Command :=
  [render, deps, validate].find? (·.name = text)

/-- The options of a command. -/
def options : Command → List OptionSpec
  | render => [.dialect, .validate, .output, .target, .verbose, .help]
  | deps => [.format, .verbose, .help]
  | validate => [.dialect, .verbose, .help]

/-- The format that the arguments name, if they name one. -/
def formatOf (args : Arguments) : Except UsageFault (Option OutputFormat) :=
  match args.value? OptionSpec.format.name with
  | none => .ok none
  | some name =>
    match OutputFormat.ofName? name with
    | some format => .ok (some format)
    | none => .error (.unknownFormat name)

/-- What a command is asked for on a file. -/
def requestOn (command : Command) (args : Arguments) (format : Option OutputFormat)
    (file : FilePath) : Request :=
  let verbose := args.has OptionSpec.verbose.name
  let dialect := args.nonEmpty? OptionSpec.dialect.name
  match command with
  | render =>
    let options : RenderOptions := {
      dialect
      validate := args.has OptionSpec.validate.name
      output := (args.nonEmpty? OptionSpec.output.name).map FilePath.ofText
      target := args.nonEmpty? OptionSpec.target.name }
    .render file options verbose
  | deps => .deps file format verbose
  | validate => .validate file dialect verbose

/-- What a command is asked for. Help comes first; a format is looked at even without a file. -/
def request (command : Command) (args : Arguments) : Except UsageFault Request :=
  if args.has OptionSpec.help.name then .ok .help
  else do
    let format ← formatOf args
    match args.positionals with
    | [] => return .help
    | [file] => return command.requestOn args format (FilePath.ofText file)
    | _ :: extra :: _ => throw (.extraArgument extra)

end Command

/-- What a command line asks for. -/
def Request.ofArgs (args : List String) : Except UsageFault Request := do
  let (settings, rest) ← leading [.help] args
  if settings.isEmpty then
    match rest with
    | [] => return .help
    | name :: rest =>
      match Command.ofName? name with
      | none => throw (.unknownCommand name)
      | some command => command.request (← Arguments.scan command.options none rest)
  else return .help

end SchemaMigration.CommandLine
