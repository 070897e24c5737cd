import SchemaMigration.CommandLine.Terminal

/-!
# The program

Rendering, checking and ordering batches of migration statements from the command line.

What a request looks at is read into a tree of files, the run works on that tree, and what it
changed is written back.
-/

namespace SchemaMigration.CommandLine

/-- The toolkit where no SQL reader is at hand: every text passes, and none is converted. -/
def withoutReader : SqlToolkit where
  check _ _ := .ok ()
  convert _ _ _ := .error (.rejected "no SQL converter is at hand")

/-- The files that a command line may read or write. -/
def filesOf (args : List String) : List FilePath :=
  match Request.ofArgs args with
  | .ok (.render file options _) => file :: options.output.toList
  | .ok (.deps file _ _) => [file]
  | .ok (.validate file _ _) => [file]
  | _ => []

/-- A path and all paths that lead to it. -/
def stages (path : FilePath) : List FilePath :=
  (List.range (path.names.length + 1)).map fun n => ⟨path.root, path.names.take n⟩

/-- The place of a path, without a look at what stands on the way. -/
def placeOf (path : FilePath) : FilePath :=
  path.names.foldl FilePath.step ⟨path.root, []⟩

/-- What stands at a path. -/
def look (path : FilePath) : IO (Option FileEntry) := do
  match ← (IO.FS.readBinFile path.render).toBaseIO with
  | .ok bytes => return some (.file bytes.data.toList)
  | .error (.inappropriateType none _ _) => return some .directory
  | .error _ => return none

/-- The tree of what stands at paths and on the way to them. -/
def readTree (paths : List FilePath) : IO FileTree := do
  let mut tree : FileTree := []
  for path in paths do
    for stage in stages path do
      if let some entry ← look stage then
        tree := tree.put (placeOf stage) entry
  return tree

/-- Writes the entries of a tree that were not in another one. -/
def writeChanges (before after : FileTree) : IO Unit := do
  for (place, entry) in after do
    if before.lookup place ≠ some entry then
      match entry with
      | .directory => IO.FS.createDirAll place.render
      | .file content => IO.FS.writeBinFile place.render ⟨content.toArray⟩

/-- The variables that set something. -/
def readEnvironment : IO Environment :=
  Settings.environmentNames.filterMapM fun (name, _) => do
    return (← IO.getEnv name).map fun value => (name, value)

/-- Runs a command line. -/
def runArgs (args : List String) : IO UInt32 := do
  let sources := Settings.SourceFile.all.map fun file => workingDirectory.child file.name
  let s : Surroundings := ⟨← readTree (filesOf args ++ sources), ← readEnvironment, withoutReader⟩
  let answer := reply s args
  writeChanges s.tree (answer.tree s)
  IO.eprint answer.remarks
  if let some cause := answer.escape? then
    IO.eprintln ("Error: " ++ cause.message)
  IO.print answer.shown
  return answer.code.toUInt32

end SchemaMigration.CommandLine

def main (args : List String) : IO UInt32 := SchemaMigration.CommandLine.runArgs args
