import SchemaMigration.Batch.ScriptFile

/-!
# What writing a script to a file comes to

There are five ways (`Batch.Writes`): a directory on the way cannot be made, a statement cannot be
rendered, the file cannot be opened, the script cannot be encoded, or it stands in the file. Every
call is one of them (`Batch.writes_writeEncoded`), so callers take it apart by cases and do not
unfold it.
-/

namespace SchemaMigration

namespace FileTree

/-- The tree with the directories that lead to a file, as far as they can be made. -/
def withDirectoriesTo (tree : FileTree) (path : FilePath) : FileTree × Except FileError Unit :=
  tree.ensureDirectories path.root path.parent.names.reverse

/-- Whether a file can be written does not depend on what is written to it. -/
theorem write_eq_error {tree : FileTree} {path : FilePath} {content : List UInt8}
    {error : FileError} (h : tree.write path content = .error error) (other : List UInt8) :
    tree.write path other = .error error := by
  unfold write at h ⊢
  cases hplace : tree.place path with
  | error cause =>
    rw [hplace] at h
    exact h
  | ok place =>
    rw [hplace] at h
    dsimp only at h ⊢
    split at h
    · next hdirectory =>
      rw [if_pos hdirectory]
      exact h
    · cases h

end FileTree

namespace Batch

variable {ε φ : Type} {encode : String → Except φ String} {tree : FileTree} {path : FilePath}
  {render : Statement → Logged ε String} {terminator : String} {batch : Batch}

/-- How a script is written: the tree that is left behind, with the records and the result. -/
inductive Writes (encode : String → Except φ String) (tree : FileTree) (path : FilePath)
    (render : Statement → Logged ε String) (terminator : String) (batch : Batch) :
    FileTree → Logged (WriteFault ε φ) Unit → Prop where
  /-- A directory on the way cannot be made; nothing is rendered. -/
  | noDirectory {made : FileTree} {error : FileError}
      (hmade : tree.withDirectoriesTo path = (made, .error error)) :
      Writes encode tree path render terminator batch made (Logged.throw (.refused error))
  /-- A statement cannot be rendered; the directories are there. -/
  | unrendered {made : FileTree} {fault : ε} (hmade : tree.withDirectoriesTo path = (made, .ok ()))
      (hscript : (batch.scriptWith render terminator).result = .error fault) :
      Writes encode tree path render terminator batch made
        ⟨(batch.scriptWith render terminator).records, .error (.unrendered fault)⟩
  /-- The file cannot be opened; the directories are there. -/
  | refused {made : FileTree} {text : String} {error : FileError}
      (hmade : tree.withDirectoriesTo path = (made, .ok ()))
      (hscript : (batch.scriptWith render terminator).result = .ok text)
      (hopen : made.write path [] = .error error) :
      Writes encode tree path render terminator batch made
        ⟨(batch.scriptWith render terminator).records, .error (.refused error)⟩
  /-- The script cannot be encoded; the file is there and empty. -/
  | unencoded {made after : FileTree} {text : String} {fault : φ}
      (hmade : tree.withDirectoriesTo path = (made, .ok ()))
      (hscript : (batch.scriptWith render terminator).result = .ok text)
      (hopen : made.write path [] = .ok after) (hencode : encode text = .error fault) :
      Writes encode tree path render terminator batch after
        ⟨(batch.scriptWith render terminator).records, .error (.unencoded fault)⟩
  /-- The script stands in the file. -/
  | written {made after : FileTree} {text encoded : String}
      (hmade : tree.withDirectoriesTo path = (made, .ok ()))
      (hscript : (batch.scriptWith render terminator).result = .ok text)
      (hencode : encode text = .ok encoded)
      (hwrite : made.write path (Text.toUtf8 encoded) = .ok after) :
      Writes encode tree path render terminator batch after
        ⟨(batch.scriptWith render terminator).records ++ [batch.writeNote path], .ok ()⟩

theorem writes_writeEncoded (encode : String → Except φ String) (tree : FileTree) (path : FilePath)
    (render : Statement → Logged ε String) (terminator : String) (batch : Batch) :
    Writes encode tree path render terminator batch
      (batch.writeEncoded encode tree path render terminator).1
      (batch.writeEncoded encode tree path render terminator).2 := by
  unfold writeEncoded
  -- One branch of the definition for each way, in the order of the steps.
  split
  · next made error hmade => exact .noDirectory hmade
  · next made hmade =>
    dsimp only
    split
    · next fault hscript => exact .unrendered hmade hscript
    · next text hscript =>
      split
      · next error hwrite => exact .refused hmade hscript (FileTree.write_eq_error hwrite [])
      · next after hwrite =>
        -- The file is open now, and what is left in it depends on the encoding.
        cases hencode : encode text with
        | error fault =>
          rw [hencode] at hwrite
          exact .unencoded hmade hscript hwrite hencode
        | ok encoded =>
          rw [hencode] at hwrite
          exact .written hmade hscript hencode hwrite

/-- There is only one way in which a script is written. -/
theorem Writes.eq_writeEncoded {after : FileTree} {logged : Logged (WriteFault ε φ) Unit}
    (h : Writes encode tree path render terminator batch after logged) :
    batch.writeEncoded encode tree path render terminator = (after, logged) := by
  unfold writeEncoded
  cases h with
  | noDirectory hmade =>
    rw [FileTree.withDirectoriesTo] at hmade
    rw [hmade]
  | unrendered hmade hscript =>
    rw [FileTree.withDirectoriesTo] at hmade
    simp only [hmade, hscript]
  | @refused _ text _ hmade hscript hopen =>
    rw [FileTree.withDirectoriesTo] at hmade
    have hwrite := FileTree.write_eq_error hopen (bytesLeft (encode text))
    simp only [hmade, hscript, hwrite]
  | unencoded hmade hscript hopen hencode =>
    rw [FileTree.withDirectoriesTo] at hmade
    simp only [hmade, hscript, hencode, bytesLeft, hopen]
  | written hmade hscript hencode hwrite =>
    rw [FileTree.withDirectoriesTo] at hmade
    simp only [hmade, hscript, hencode, bytesLeft, hwrite]

end Batch

end SchemaMigration
