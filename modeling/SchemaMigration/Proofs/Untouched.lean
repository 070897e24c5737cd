import Mathlib.Data.List.Basic
import SchemaMigration.Proofs.Halves
import SchemaMigration.Proofs.Reporting

/-!
# A run that fails leaves nothing behind

Only a script that goes to a file changes the tree of files, and it does so in two steps: the
directories that lead to the file are made, then the file is opened and written. The first step may
succeed where the run fails later, but all that it does is to put directories where nothing stood
(`FileTree.exists_put_of_makeDirectory`), and so the files of the tree stay the same, with the same
content (`FileTree.sameFiles_ensureDirectories`). A file that cannot be opened stays as it is.
Whatever a command line asks for, then, a code other than zero means that nothing was written out
and that no file is new, gone or changed (`CommandLine.files_kept_on_failure`).

That the files are kept takes for granted that texts can be encoded: a file is emptied before the
encoding of its text fails. For a document without halves of surrogate pairs no encoding fails
(`CommandLine.encoded_of_isWhole`).
-/

namespace SchemaMigration

/-! ## Trees with the same files -/

namespace FileTree

/-- The same files stand in both trees, with the same content; directories may differ. -/
def SameFiles (before after : FileTree) : Prop :=
  ∀ place content,
    after.entryAt place = some (.file content) ↔ before.entryAt place = some (.file content)

theorem SameFiles.refl (tree : FileTree) : tree.SameFiles tree := fun _ _ => Iff.rfl

theorem SameFiles.trans {before between after : FileTree} (h : before.SameFiles between)
    (h' : between.SameFiles after) : before.SameFiles after :=
  fun place content => (h' place content).trans (h place content)

/-- A file is where it is listed; only directories may stand where nothing is listed. -/
theorem entryAt_eq_file_iff {tree : FileTree} {place : FilePath} {content : List UInt8} :
    tree.entryAt place = some (.file content) ↔ tree.lookup place = some (.file content) := by
  unfold entryAt
  cases tree.lookup place with
  -- A place without an entry of its own can count as a directory, but not as a file.
  | some entry => exact Iff.rfl
  | none =>
    dsimp only
    split
    · exact ⟨nofun, nofun⟩
    · exact Iff.rfl

/-- Of several entries at a place, the first counts. -/
theorem lookup_cons_eq (place other : FilePath) (entry : FileEntry) (rest : FileTree) :
    List.lookup other ((place, entry) :: rest) =
      if other = place then some entry else List.lookup other rest := by
  by_cases h : other = place
  · rw [if_pos h, h, List.lookup_cons, beq_self_eq_true]
  · rw [if_neg h, List.lookup_cons, beq_false_of_ne h]

/-- Only the place of the new entry looks different. -/
theorem lookup_put (tree : FileTree) (place other : FilePath) (entry : FileEntry) :
    (tree.put place entry).lookup other =
      if other = place then some entry else tree.lookup other := by
  induction tree with
  | nil => exact lookup_cons_eq place other entry []
  | cons first rest ih =>
    obtain ⟨known, old⟩ := first
    -- An entry is put over the first one at its place, and behind all others if there is none.
    rw [put]
    split
    · next hknown =>
      rw [lookup_cons_eq, lookup_cons_eq, hknown]
      split
      · rfl
      · rfl
    · next hknown =>
      rw [lookup_cons_eq, lookup_cons_eq, ih]
      by_cases hother : other = known
      · have hplace : other ≠ place := fun h => hknown (hother.symm.trans h)
        rw [if_pos hother, if_neg hplace, if_pos hother]
      · rw [if_neg hother, if_neg hother]

/-- A new directory where nothing stood is no change to the files. -/
theorem sameFiles_put_directory {tree : FileTree} {place : FilePath}
    (h : tree.entryAt place = none) : tree.SameFiles (tree.put place .directory) := by
  intro other content
  rw [entryAt_eq_file_iff, entryAt_eq_file_iff, lookup_put]
  split
  -- Nothing stood there before, and what stands there now is not a file.
  · next heq =>
    rw [heq, ← entryAt_eq_file_iff, h]
    exact ⟨nofun, nofun⟩
  · exact Iff.rfl

/-! ## Making directories -/

/-- A directory is made where nothing stood. -/
theorem exists_put_of_makeDirectory {tree after : FileTree} {path : FilePath}
    (h : tree.makeDirectory path = .ok after) :
    ∃ place, tree.entryAt place = none ∧ after = tree.put place .directory := by
  unfold makeDirectory at h
  cases hplace : tree.place path with
  | error cause =>
    rw [hplace] at h
    cases h
  | ok place =>
    rw [hplace] at h
    dsimp only at h
    -- A directory is made only where nothing stands.
    split at h
    · cases h
    · next hnone =>
      cases h
      exact ⟨place, Option.not_isSome_iff_eq_none.mp hnone, rfl⟩

theorem sameFiles_ensureDirectory {tree after : FileTree} {path : FilePath}
    (h : tree.ensureDirectory path = .ok after) : tree.SameFiles after := by
  unfold ensureDirectory at h
  cases hmake : tree.makeDirectory path with
  | ok made =>
    rw [hmake] at h
    cases h
    obtain ⟨place, hnone, rfl⟩ := exists_put_of_makeDirectory hmake
    exact sameFiles_put_directory hnone
  | error error =>
    rw [hmake] at h
    dsimp only at h
    -- What is there already may be a directory, and then nothing is done.
    split at h
    · cases h
      exact .refl tree
    · cases h

/-- Where the last directory can be made at once, no other is made. -/
theorem ensureDirectories_of_ok {tree after : FileTree} {root : String} {names : List String}
    (h : tree.ensureDirectory ⟨root, names.reverse⟩ = .ok after) :
    tree.ensureDirectories root names = (after, .ok ()) := by
  cases names with
  | nil =>
    rw [List.reverse_nil] at h
    rw [ensureDirectories, h]
  | cons last before => rw [ensureDirectories, h]

/-- Making directories is no change to the files, however far it gets. -/
theorem sameFiles_ensureDirectories (tree : FileTree) (root : String) (names : List String) :
    tree.SameFiles (tree.ensureDirectories root names).1 := by
  -- The names lead outwards, so the induction starts at the directory around all the others.
  induction names with
  | nil =>
    rw [ensureDirectories]
    split
    · next after h => exact sameFiles_ensureDirectory h
    · exact .refl tree
  | cons last before ih =>
    rw [ensureDirectories]
    split
    · next after h => exact sameFiles_ensureDirectory h
    -- The directory around it is missing: that one is made first, and what it leaves behind stays.
    · split
      · split
        · next after error h =>
          rw [h] at ih
          exact ih
        · next after h =>
          rw [h] at ih
          split
          · next final hfinal => exact ih.trans (sameFiles_ensureDirectory hfinal)
          · exact ih
      · exact .refl tree

end FileTree

/-- A script that is not written leaves the files as they were, unless it cannot be encoded. -/
theorem Batch.Writes.sameFiles {ε φ : Type} {encode : String → Except φ String}
    {tree after : FileTree} {path : FilePath} {render : Statement → Logged ε String}
    {terminator : String} {batch : Batch} {logged : Logged (WriteFault ε φ) Unit}
    {fault : WriteFault ε φ} (h : Writes encode tree path render terminator batch after logged)
    (hfault : logged.result = .error fault) (hencoded : ∀ cause, fault ≠ .unencoded cause) :
    tree.SameFiles after := by
  -- The directories are all that changes before the file is written.
  have hmade : tree.SameFiles (tree.withDirectoriesTo path).1 :=
    tree.sameFiles_ensureDirectories path.root path.parent.names.reverse
  cases h with
  | noDirectory hdirectories =>
    rw [hdirectories] at hmade
    exact hmade
  | unrendered hdirectories _ =>
    rw [hdirectories] at hmade
    exact hmade
  -- A refusal to open gives no tree, so the one with the directories is left behind.
  | refused hdirectories _ _ =>
    rw [hdirectories] at hmade
    exact hmade
  | unencoded _ _ _ _ =>
    cases hfault
    exact absurd rfl (hencoded _)
  | written _ _ _ _ => cases hfault

/-- A script that can be encoded is written as a whole, or the files are as they were. -/
theorem Batch.sameFiles_writeScript {ε : Type} {tree : FileTree} {path : FilePath}
    {render : Statement → Logged ε String} {terminator : String} {batch : Batch}
    {fault : WriteFault ε Empty}
    (h : (batch.writeScript tree path render terminator).2.result = .error fault) :
    tree.SameFiles (batch.writeScript tree path render terminator).1 :=
  (batch.writes_writeEncoded .ok tree path render terminator).sameFiles h fun cause => nomatch cause

namespace CommandLine

/-! ## Runs -/

variable {s : Surroundings}

/-- If the block fails, it leaves the files of its surroundings as they were, unless a text cannot
be encoded. -/
def Block.KeepsOnFailure (s : Surroundings) (block : Block) : Prop :=
  ∀ error, block.steps.result = .error error → (∀ fault, error ≠ .encoding fault) →
    s.tree.SameFiles block.tree

/-- The run does not fail because a text cannot be encoded. -/
def Outcome.Encoded (outcome : Outcome) : Prop :=
  ∀ fault, outcome.ending.error? ≠ some (.encoding fault)

/-- If the run fails, it writes nothing out, and it leaves the files of its surroundings as they
were if all texts can be encoded. -/
def Outcome.KeepsOnFailure (s : Surroundings) (outcome : Outcome) : Prop :=
  outcome.ending ≠ .success →
    outcome.output = "" ∧ (outcome.Encoded → s.tree.SameFiles outcome.tree)

/-- A run keeps what its block keeps, since it writes nothing out when it fails. -/
theorem Command.keepsOnFailure_run (command : Command) {block : Settings → Block}
    (hblock : ∀ settings, (block settings).KeepsOnFailure s) :
    (command.run s block).KeepsOnFailure s := by
  intro hfails
  cases hsettings : s.settings.result with
  | error fault =>
    rw [run_of_settings_eq_error hsettings]
    exact ⟨rfl, fun _ => .refl s.tree⟩
  | ok settings =>
    -- A block that ends well makes the run end well, which is excluded.
    cases hsteps : (block settings).steps.result with
    | error error =>
      rw [run_of_steps_eq_error hsettings hsteps]
      refine ⟨rfl, fun hencoded => hblock settings error hsteps ?_⟩
      rintro fault rfl
      exact hencoded fault (error?_ending command _)
    | ok output =>
      rw [run_of_steps_eq_ok hsettings hsteps] at hfails
      exact absurd rfl hfails

/-- A block that changes no file. -/
theorem keepsOnFailure_unchanged (steps : Logged RunError String) :
    Block.KeepsOnFailure s ⟨s.tree, steps⟩ :=
  fun _ _ _ => .refl s.tree

theorem keepsOnFailure_renderToFile (s : Surroundings) (file : FilePath)
    (plan : Logged Failure RenderPlan) (path : FilePath) :
    (renderToFile s file plan path).KeepsOnFailure s := by
  intro error h hencoded
  unfold renderToFile at h ⊢
  split at h
  -- Without a plan the tree is not touched.
  · exact .refl s.tree
  · next found hplan =>
    have hwrites := found.batch.writes_writeEncoded (found.encodeToFile s file) s.tree path
      found.renderer found.terminator
    generalize found.batch.writeEncoded (found.encodeToFile s file) s.tree path found.renderer
      found.terminator = left at h hwrites ⊢
    obtain ⟨after, written⟩ := left
    dsimp only at h hwrites ⊢
    split at h
    · cases h
    · next fault hfault =>
      cases h
      -- An encoding that fails would be the error of the block.
      refine hwrites.sameFiles hfault ?_
      rintro cause rfl
      exact hencoded cause rfl

theorem keepsOnFailure_renderBlock (s : Surroundings) (file : FilePath) (options : RenderOptions)
    (settings : Settings) : (renderBlock s file options settings).KeepsOnFailure s := by
  unfold renderBlock
  dsimp only
  split
  · exact keepsOnFailure_renderToFile s file _ _
  · exact keepsOnFailure_unchanged _

theorem keepsOnFailure_run {request : Request} {outcome : Outcome}
    (h : request.run s = some outcome) : outcome.KeepsOnFailure s := by
  cases request with
  | help => cases h
  | render file options verbose =>
    cases h
    exact Command.render.keepsOnFailure_run (keepsOnFailure_renderBlock s file options)
  -- Listing and checking never change the tree.
  | deps file format verbose =>
    cases h
    exact Command.deps.keepsOnFailure_run fun _ => keepsOnFailure_unchanged _
  | validate file dialect verbose =>
    cases h
    exact Command.validate.keepsOnFailure_run fun _ => keepsOnFailure_unchanged _

/-! ## Texts that can be encoded -/

theorem not_meets_encoding {request : Request} (hwhole : ∀ file, request.file? = some file →
      ∀ value, Document.readFile s.tree file = .ok value → value.IsWhole)
    (fault : Text.EncodingFault) : ¬s.Meets request (.encoding fault) := by
  -- A text whose marked form is the same is encoded.
  have hencodes : ∀ {leave : String → String} {text : String} {marked : Option String},
      marked = some text → Text.encode leave text marked ≠ .error fault := by
    intro leave text marked hmarked h
    cases (Text.encode_of_eq_some hmarked).symm.trans h
  intro h
  cases h with
  | edges hload h =>
    generalize Option.getD _ _ = format at h
    cases h with
    | text hedges h =>
      exact hencodes (Surroundings.markedText?_of_isWhole hload.batch_eq (hwhole _ rfl)
        (edgeText_eq_ok_iff.mpr ⟨_, hedges, rfl⟩)) h
  -- To the output or to a file, it is the script of the loaded batch.
  | fileText hplan _ _ hscript _ h =>
    obtain ⟨settings, hload, -⟩ := hplan.exists_loads
    exact hencodes (Surroundings.markedText?_of_isWhole hload.batch_eq (hwhole _ rfl) hscript) h
  | scriptText hplan _ hscript h =>
    obtain ⟨settings, hload, -⟩ := hplan.exists_loads
    exact hencodes (Surroundings.markedText?_of_isWhole hload.batch_eq (hwhole _ rfl) hscript) h

/-- All texts that are made of a document without halves can be encoded. -/
theorem encoded_of_isWhole {request : Request} {outcome : Outcome}
    (hrun : request.run s = some outcome) (hwhole : ∀ file, request.file? = some file →
      ∀ value, Document.readFile s.tree file = .ok value → value.IsWhole) : outcome.Encoded :=
  fun fault h => not_meets_encoding hwhole fault ((error?_eq_some_iff hrun).mp h)

/-! ## Command lines -/

/-- A command line leads to a refusal, to help, or to the outcome of a run. -/
theorem reply_cases (s : Surroundings) (args : List String) :
    (∃ fault, reply s args = .refused fault) ∨ reply s args = .help ∨
      ∃ request outcome, Request.ofArgs args = .ok request ∧ request.run s = some outcome ∧
        reply s args = .ran outcome request.isVerbose := by
  unfold reply
  cases hrequest : Request.ofArgs args with
  | error fault => exact .inl ⟨fault, rfl⟩
  | ok request =>
    cases hrun : request.run s with
    | none => exact .inr (.inl (by dsimp only; rw [hrun]))
    | some outcome => exact .inr (.inr ⟨request, outcome, rfl, hrun, by dsimp only; rw [hrun]⟩)

/-- The command line does not fail because a text cannot be encoded. -/
def Reply.Encoded : Reply → Prop
  | ran outcome _ => outcome.Encoded
  | _ => True

/-- **A failure leaves nothing behind.** When a command line ends with a code other than zero,
nothing was written to the output, and, as long as texts can be encoded, every file has the content
that it had before, and there is no new file. -/
theorem files_kept_on_failure (s : Surroundings) (args : List String)
    (h : (reply s args).code ≠ 0) :
    (reply s args).shown = "" ∧
      ((reply s args).Encoded → s.tree.SameFiles ((reply s args).tree s)) := by
  rcases reply_cases s args with ⟨fault, hreply⟩ | hreply | ⟨request, outcome, -, hrun, hreply⟩
  -- A command line that is not understood does not run anything.
  · rw [hreply]
    exact ⟨rfl, fun _ => .refl s.tree⟩
  -- The help ends with code zero.
  · rw [hreply] at h
    exact absurd rfl h
  · rw [hreply] at h ⊢
    have hfails : outcome.ending ≠ .success := by
      intro hending
      rw [Reply.code, hending] at h
      exact h rfl
    obtain ⟨houtput, hfiles⟩ := keepsOnFailure_run hrun hfails
    refine ⟨?_, hfiles⟩
    rw [Reply.shown, Outcome.shown, houtput]
    rfl

/-- A batch without statements. -/
def besideEmptyBatch : Surroundings :=
  .besideJson (Text.toUtf8 "[]") []
    { check := fun _ _ => .ok (), convert := fun _ _ sql => .ok sql }

theorem loads_besideEmptyBatch :
    besideEmptyBatch.Loads Surroundings.jsonPath ⟨"postgres", false, .json, ";"⟩ [] where
  settings_eq := Surroundings.settings_besideJson
  batch_eq := by
    have hvalue : Json.read (String.ofList (Text.unifyNewlines ['[', ']'])) = .ok (.list []) := by
      cbv
    exact Surroundings.batch_besideJson rfl hvalue rfl

/-- The script should go where a directory is. On the way there a directory is made, and no file. -/
theorem files_kept_besideEmptyBatch :
    (reply besideEmptyBatch ["render", "-o", "made/..", "a.json"]).code ≠ 0 ∧
      (reply besideEmptyBatch ["render", "-o", "made/..", "a.json"]).shown = "" ∧
      besideEmptyBatch.tree.SameFiles
        ((reply besideEmptyBatch ["render", "-o", "made/..", "a.json"]).tree besideEmptyBatch) := by
  let options : RenderOptions := ⟨none, false, some ⟨"", ["made", ".."]⟩, none⟩
  let refusal : FileError := ⟨.isDirectory, ⟨"", ["made", ".."]⟩⟩
  -- The directory is made, and the path then leads to a directory, which cannot be opened.
  have hending : (render besideEmptyBatch Surroundings.jsonPath options).ending =
      .escaped (.step (.system refusal)) := by
    have hplan : besideEmptyBatch.Plans Surroundings.jsonPath options _ :=
      .plain loads_besideEmptyBatch rfl
    have hdirectory : besideEmptyBatch.tree.ensureDirectory ⟨"", ["made"]⟩ =
        .ok (besideEmptyBatch.tree.put ⟨"", ["made"]⟩ .directory) := by
      rw [FileTree.ensureDirectory, FileTree.makeDirectory, place_eq_walk (by decide) (by decide)]
      rfl
    have hmade : besideEmptyBatch.tree.withDirectoriesTo ⟨"", ["made", ".."]⟩ =
        (besideEmptyBatch.tree.put ⟨"", ["made"]⟩ .directory, .ok ()) :=
      FileTree.ensureDirectories_of_ok hdirectory
    have hopen : (besideEmptyBatch.tree.put ⟨"", ["made"]⟩ .directory).write ⟨"", ["made", ".."]⟩
        [] = .error refusal := by
      rw [FileTree.write, place_eq_walk (by decide) (by decide)]
      rfl
    have hsettings : besideEmptyBatch.settings.result = .ok ⟨"postgres", false, .json, ";"⟩ :=
      loads_besideEmptyBatch.settings_eq
    have hplanned := (renderPlan_eq_ok_iff hsettings).mpr hplan
    have hsteps := steps_renderBlock_of_writes hplanned rfl (.refused hmade rfl hopen) rfl
    rw [render, Command.run_of_steps_eq_error hsettings hsteps]
    rfl
  have hreply : reply besideEmptyBatch ["render", "-o", "made/..", "a.json"] =
      .ran (render besideEmptyBatch Surroundings.jsonPath options) false := rfl
  have hcode : (reply besideEmptyBatch ["render", "-o", "made/..", "a.json"]).code ≠ 0 := by
    rw [hreply, Reply.code, hending]
    exact Nat.one_ne_zero
  have hencoded : (reply besideEmptyBatch ["render", "-o", "made/..", "a.json"]).Encoded := by
    rw [hreply]
    intro fault h
    -- The run ends with a refusal of the system, and that is no fault of an encoding.
    have herror := congrArg Ending.error? hending
    cases herror.symm.trans h
  obtain ⟨hshown, hfiles⟩ := files_kept_on_failure _ _ hcode
  exact ⟨hcode, hshown, hfiles hencoded⟩

end CommandLine

end SchemaMigration
