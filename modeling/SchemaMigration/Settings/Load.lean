import SchemaMigration.Files.Tree
import SchemaMigration.Log
import SchemaMigration.Settings.Basic
import SchemaMigration.Toml.Reader

/-!
# Settings from files and from the environment

Of the files that may hold settings, the first with a table of them that is not empty counts. A file
that cannot be read or is not TOML is passed over with a warning. What the environment sets wins
over the file, each setting by itself.

A file is read here however deep it nests. That a reader of TOML may give up at some depth is set
aside.
-/

namespace SchemaMigration

/-- The variables of the environment. -/
abbrev Environment := List (String × String)

namespace Settings

/-- The files that may hold settings. -/
inductive SourceFile where
  /-- The file of a whole project, in which many tools have their tables. -/
  | project
  /-- The file for nothing but these settings. -/
  | own
  deriving DecidableEq

namespace SourceFile

/-- The name of a file. -/
def name : SourceFile → String
  | project => "pyproject.toml"
  | own => "migrast.toml"

/-- The files, in the order in which they are looked at. -/
def all : List SourceFile := [project, own]

/-- The value in a file's table that should hold the settings. In their own file they may stand at
the top. -/
def settings? (file : SourceFile) (top : Entries) : Except Fault (Option Value) := do
  let entry ← match top.get? "tool" with
    | none => pure none
    | some (.mapping tools) => pure (Entries.get? tools "migrast")
    | some other => throw (.toolsNotTable other)
  return match entry, file with
    | none, .own => some (.mapping top)
    | entry, _ => entry

end SourceFile

/-! ### Settings as pairs -/

/-- The parts of a value that has parts: the items of a list, the characters of a text, the keys of
a table. -/
def parts? : Value → Option (List Value)
  | .list items => some items
  | .text s => some (s.toList.map fun c => .text (String.singleton c))
  | .mapping entries => some (entries.map (·.1))
  | _ => none

/-- The key and the value that a member of a list of settings stands for. -/
def pairOf (index : Nat) (member : Value) : Except Fault (Value × Value) :=
  match parts? member with
  | none => .error (.notAPair index)
  | some [key, value] => if key.canBeKey then .ok (key, value) else .error (.notAKey key)
  | some parts => .error (.wrongLength index parts.length)

/-- The pairs that the members of a list stand for, counted from the given index. -/
def pairsOf : Nat → List Value → Except Fault Entries
  | _, [] => .ok []
  | index, member :: rest => do
    let pair ← pairOf index member
    return pair :: (← pairsOf (index + 1) rest)

/-- The table that a value holds; a value that is no table has to consist of pairs. -/
def tableOf : Value → Except Fault Entries
  | .mapping entries => .ok entries
  | value =>
    match parts? value with
    | none => .error (.notPairs value)
    | some members => do return Entries.ofList (← pairsOf 0 members)

/-! ### Files -/

/-- The name under which settings are logged. -/
def logSource : String := "ConfigManager"

/-- The top table of a settings file, if the file is there and can be read. -/
def readSource (tree : FileTree) (path : FilePath) : Logged Fault (Option Entries) :=
  let passOver (reason : String) : Logged Fault (Option Entries) := do
    Logged.log .warning logSource s!"Could not read {path.render}: {reason}"
    return none
  match tree.find? path with
  | .error error => Logged.throw (.refused error)
  | .ok none => return none
  | .ok (some _) =>
    match tree.read path with
    | .error error => passOver error.message
    | .ok bytes =>
      match Text.ofUtf8 bytes with
      | .error fault => Logged.throw (.notText fault)
      | .ok text =>
        match Toml.read text with
        | .ok entries => return some entries
        | .error .malformed => passOver "the text is not well-formed"
        | .error (.tooManyDigits count) => Logged.throw (.tooManyDigits count)

/-- The table of settings of the first file that has one. -/
def tableFrom (tree : FileTree) (root : FilePath) : List SourceFile → Logged Fault Entries
  | [] => do
    Logged.log .debug logSource "No migrast configuration found"
    return []
  | file :: rest => do
    let path := root.child file.name
    match ← readSource tree path with
    | none => tableFrom tree root rest
    | some top =>
      match ← Logged.ofExcept (file.settings? top) with
      | none => tableFrom tree root rest
      | some value =>
        if value.isTruthy then do
          Logged.log .debug logSource s!"Using configuration from {path.render}"
          Logged.ofExcept (tableOf value)
        else tableFrom tree root rest

/-! ### The environment -/

/-- The variables that set something, with the names of the settings. -/
def environmentNames : List (String × String) :=
  [("MIGRAST_DIALECT", "dialect"), ("MIGRAST_VALIDATE", "validate"),
    ("MIGRAST_FORMAT", "output_format"), ("MIGRAST_TERMINATOR", "terminator")]

/-- The table with what the environment sets put in. -/
def override (environment : Environment) (entries : Entries) : Entries :=
  environmentNames.foldl
    (fun entries (variableName, name) =>
      match environment.lookup variableName with
      | some text => entries.put (.text name) (.text text)
      | none => entries)
    entries

/-- The settings for a directory. -/
def load (tree : FileTree) (environment : Environment) (root : FilePath) :
    Logged Fault Settings := do
  let entries ← tableFrom tree root SourceFile.all
  Logged.ofExcept (ofEntries (override environment entries))

end Settings

end SchemaMigration
