import SchemaMigration.Batch.Script
import SchemaMigration.Files.Tree
import SchemaMigration.Text.Utf8

/-!
# Writing the script of a batch to a file

The directories that lead to the file are made first, then the whole script is rendered, and only
then is the file opened: a statement that cannot be rendered leaves every file as it was. Opening
the file empties it, and it stays empty if the script cannot be encoded.
-/

namespace SchemaMigration

/-- Why a script is not written. -/
inductive WriteFault (ε φ : Type) where
  /-- A statement cannot be rendered. -/
  | unrendered (error : ε)
  /-- The system refuses to make a directory or the file. -/
  | refused (error : FileError)
  /-- The script cannot be encoded. -/
  | unencoded (fault : φ)

/-- What stands in a file that was opened to write a text, which may be one that cannot be encoded.
-/
def bytesLeft {φ : Type} : Except φ String → List UInt8
  | .ok text => Text.toUtf8 text
  | .error _ => []

namespace Batch

/-- The name under which writing logs. -/
def writeLogSource : String := "migrast.io.exporter"

/-- What is logged when a script is written. -/
def writeNote (batch : Batch) (path : FilePath) : LogRecord :=
  ⟨.info, writeLogSource, s!"Wrote {batch.length} statements to {path.render}"⟩

/-- The tree after the script was written, as far as it can be encoded, to the file that a path
leads to. -/
def writeEncoded {ε φ : Type} (encode : String → Except φ String) (tree : FileTree)
    (path : FilePath) (render : Statement → Logged ε String) (terminator : String)
    (batch : Batch) : FileTree × Logged (WriteFault ε φ) Unit :=
  match tree.ensureDirectories path.root path.parent.names.reverse with
  | (tree, .error error) => (tree, Logged.throw (.refused error))
  | (tree, .ok ()) =>
    let script := batch.scriptWith render terminator
    match script.result with
    | .error error => (tree, ⟨script.records, .error (.unrendered error)⟩)
    | .ok text =>
      match tree.write path (bytesLeft (encode text)) with
      | .error error => (tree, ⟨script.records, .error (.refused error)⟩)
      | .ok tree =>
        match encode text with
        | .error fault => (tree, ⟨script.records, .error (.unencoded fault)⟩)
        | .ok _ => (tree, ⟨script.records ++ [batch.writeNote path], .ok ()⟩)

/-- The tree after a script that can be encoded was written to the file that a path leads to. -/
def writeScript {ε : Type} (tree : FileTree) (path : FilePath)
    (render : Statement → Logged ε String) (terminator : String) (batch : Batch) :
    FileTree × Logged (WriteFault ε Empty) Unit :=
  batch.writeEncoded .ok tree path render terminator

end Batch

end SchemaMigration
