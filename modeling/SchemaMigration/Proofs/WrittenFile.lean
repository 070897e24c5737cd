import SchemaMigration.Proofs.Untouched

/-!
# Reading a file that was written

A file is found again where it was written (`FileTree.read_of_write`). The way to it leads through
directories, and putting a file where none of them stands leaves all of them in place, so the way is
the same before and after (`FileTree.walk_put`). So a script that is written is what is read
(`Batch.read_writeScript`).
-/

namespace SchemaMigration

namespace FileTree

variable {tree after : FileTree} {place other : FilePath} {entry : FileEntry} {path : FilePath}
  {content : List UInt8}

theorem any_put (test : FilePath → Bool) (h : tree.any (test ·.1) = true) :
    (tree.put place entry).any (test ·.1) = true := by
  induction tree with
  | nil => cases h
  -- An entry is replaced by one at the same place, so whatever was tested is still there.
  | cons first rest ih =>
    obtain ⟨known, old⟩ := first
    rw [List.any_cons, Bool.or_eq_true] at h
    rw [put]
    split
    · next hknown =>
      rw [List.any_cons, Bool.or_eq_true, ← hknown]
      exact h
    · rw [List.any_cons, Bool.or_eq_true]
      exact h.imp_right ih

/-- What is put somewhere else leaves a directory where it is. -/
theorem entryAt_put_directory (h : tree.entryAt other = some .directory) (hne : other ≠ place) :
    (tree.put place entry).entryAt other = some .directory := by
  unfold entryAt at h ⊢
  rw [lookup_put, if_neg hne]
  -- A directory has an entry of its own, or it is there because something lies inside it.
  cases hlookup : tree.lookup other with
  | some found =>
    rw [hlookup] at h
    exact h
  | none =>
    rw [hlookup] at h
    dsimp only at h ⊢
    have hcondition : (other.names.all (· = "..") || tree.any (·.1.isInside other)) = true := by
      by_contra hfalse
      rw [if_neg hfalse] at h
      cases h
    rw [if_pos]
    rw [Bool.or_eq_true] at hcondition ⊢
    exact hcondition.imp_right (any_put (·.isInside other))

/-- A way that leads through directories still leads to its end when something is put where no
directory stood. -/
theorem walk_put (hplace : tree.entryAt place ≠ some .directory) {names : List String}
    {start final : FilePath} (h : tree.walk start names = .ok final) :
    (tree.put place entry).walk start names = .ok final := by
  induction names generalizing start with
  | nil => exact h
  | cons name rest ih =>
    rw [walk] at h ⊢
    split at h
    · cases h
    · cases h
    · next hdirectory =>
      -- The way goes on from a directory, and that is not where something was put.
      have hne : start ≠ place := by
        intro heq
        rw [heq] at hdirectory
        exact hplace hdirectory
      rw [entryAt_put_directory hdirectory hne]
      dsimp only
      -- How long a name may be has nothing to do with what stands in the tree.
      split at h
      · cases h
      · next hsize =>
        rw [if_neg hsize]
        exact ih h

theorem place_put (hplace : tree.entryAt place ≠ some .directory) {final : FilePath}
    (h : tree.place path = .ok final) : (tree.put place entry).place path = .ok final := by
  unfold FileTree.place at h ⊢
  dsimp only at h ⊢
  split at h
  · cases h
  · next hnul =>
    rw [if_neg hnul]
    split at h
    · cases h
    · next hsize =>
      rw [if_neg hsize]
      exact walk_put hplace h

/-- What was written to a file is read from it. -/
theorem read_of_write (h : tree.write path content = .ok after) :
    after.read path = .ok content := by
  unfold write at h
  split at h
  · cases h
  · next place hplace =>
    split at h
    · cases h
    · next hdirectory =>
      cases h
      -- What stands at the place now is the file that was put there.
      have hentry : (tree.put place (.file content)).entryAt place = some (.file content) := by
        rw [entryAt_eq_file_iff, lookup_put, if_pos rfl]
      rw [read, place_put hdirectory hplace]
      simp only [hentry]

/-! ## Paths that can be written to -/

/-- A file can be written there: the directories that lead to it can be made, and then no directory
stands in its place. -/
def Writable (tree : FileTree) (path : FilePath) : Prop :=
  ∃ made place, tree.withDirectoriesTo path = (made, .ok ()) ∧ made.place path = .ok place ∧
    made.entryAt place ≠ some .directory

theorem Writable.exists_write (h : tree.Writable path) (content : List UInt8) :
    ∃ made after, tree.withDirectoriesTo path = (made, .ok ()) ∧
      made.write path content = .ok after := by
  obtain ⟨made, place, hmade, hplace, hdirectory⟩ := h
  refine ⟨made, made.put place (.file content), hmade, ?_⟩
  unfold write
  rw [hplace]
  dsimp only
  rw [if_neg hdirectory]

end FileTree

/-- A script that can be rendered stands in its file, wherever one can be written. -/
theorem Batch.read_writeScript {ε : Type} {tree : FileTree} {path : FilePath}
    {render : Statement → Logged ε String} {terminator text : String} {batch : Batch}
    (hpath : tree.Writable path)
    (hscript : (batch.scriptWith render terminator).result = .ok text) :
    (batch.writeScript tree path render terminator).2.result = .ok () ∧
      (batch.writeScript tree path render terminator).1.read path = .ok (Text.toUtf8 text) := by
  obtain ⟨made, after, hmade, hwrite⟩ := hpath.exists_write (Text.toUtf8 text)
  -- Every text is encoded, so nothing is left that could fail behind the directories.
  have hwrites : Writes (Except.ok : String → Except Empty String) tree path render terminator
      batch after _ := .written hmade hscript rfl hwrite
  rw [writeScript, hwrites.eq_writeEncoded]
  exact ⟨rfl, FileTree.read_of_write hwrite⟩

end SchemaMigration
