import SchemaMigration.Document.Statement
import SchemaMigration.Files.Decoding
import SchemaMigration.Files.Tree
import SchemaMigration.Json.Reader
import SchemaMigration.Log
import SchemaMigration.Value.Marked
import SchemaMigration.Yaml.Reader

/-!
# Files of statements

The ending of a file's name tells its format. Faults of the file as a whole are located by its path,
faults inside the document by its name.
-/

namespace SchemaMigration

open Document

namespace Document

/-- A format of documents. -/
inductive FileFormat where
  | yaml
  | json
  deriving DecidableEq

/-- The format that the ending of a name stands for; case does not count. -/
def FileFormat.ofEnding? (ending : String) : Option FileFormat :=
  match Text.lower ending with
  | ".yaml" => some .yaml
  | ".yml" => some .yaml
  | ".json" => some .json
  | _ => none

/-- Why a file gives no batch. Most causes are reported as load errors; some are reported as what
they are. -/
inductive FileFault where
  | refused (error : LoadError)
  /-- The path cannot be asked for. -/
  | badPath (error : FileError)
  /-- The bytes of the file are no text. -/
  | notText (fault : Text.Utf8Fault)
  /-- A YAML text cannot be decoded, or a scalar in it cannot be made into a value of its type. -/
  | yaml (fault : Yaml.Fault)
  /-- An integer of a JSON text is too long. -/
  | jsonNumber (error : Json.Error)

/-- The text that reports a fault. -/
def FileFault.message : FileFault → String
  | refused error => error.message
  | badPath error => error.message
  | notText fault => fault.message
  | yaml fault => fault.message
  | jsonNumber error => error.message

/-- The class of a fault; a load error without a place stands for a value that has no text. -/
def FileFault.errorClass : FileFault → ErrorClass
  | refused error =>
    if error.fault.reason.isPlaced then .statementLoadError else .valueError
  | badPath _ => .valueError
  | notText _ => .unicodeDecodeError
  | yaml fault => fault.errorClass
  | jsonNumber _ => .valueError

/-- The value that a YAML file holds; it is decoded piece by piece. -/
def readYaml (name : String) (bytes : List UInt8) : Except FileFault Value :=
  match Yaml.read (.ofBytes bytes) with
  | .ok value => .ok value
  | .error .malformed => .error (.refused (.whole name .notYaml))
  | .error fault => .error (.yaml fault)

/-- The value that a JSON file holds. -/
def readJson (name : String) (bytes : List UInt8) : Except FileFault Value :=
  match Text.ofUtf8 bytes with
  | .error fault => .error (.notText fault)
  | .ok chars =>
    match Json.read (String.ofList (Text.unifyNewlines chars)) with
    | .ok value => .ok value
    | .error error =>
      match error.fault with
      | .tooManyDigits _ => .error (.jsonNumber error)
      | _ => .error (.refused (.whole name (.notJson error.message)))

/-- The value that a file holds. -/
def readFile (tree : FileTree) (path : FilePath) : Except FileFault Value :=
  let name := path.render
  match FileFormat.ofEnding? path.ending with
  | none => .error (.refused (.whole name .unsupportedFile))
  | some format =>
    match tree.read path with
    | .error error =>
      if error.cause = .nul then .error (.badPath error)
      else .error (.refused (.whole name (.unreadable error.message)))
    | .ok bytes =>
      match format with
      | .yaml => readYaml name bytes
      | .json => readJson name bytes

/-- The name under which loading logs. -/
def loadLogSource : String := "migrast.io.loader"

end Document

/-- The batch that a file holds. -/
def Batch.load (tree : FileTree) (path : FilePath) : Logged FileFault Batch := do
  let value ← Logged.ofExcept (readFile tree path)
  let batch ← Logged.ofExcept (((Batch.ofValue value).named path.name).mapError .refused)
  Logged.log .info loadLogSource s!"Loaded {batch.length} statements from {path.render}"
  return batch

/-- The batch that a file holds, with another character shown for each half of a surrogate pair in
the document: its mark. -/
def Batch.loadMarked? (tree : FileTree) (path : FilePath) : Option Batch :=
  match readFile tree path with
  | .error _ => none
  | .ok value => (Batch.ofValue value.marked).toOption

end SchemaMigration
