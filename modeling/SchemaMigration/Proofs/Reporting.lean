import SchemaMigration.CommandLine.Terminal
import SchemaMigration.Proofs.FileFaults
import SchemaMigration.Proofs.ScriptFile
import SchemaMigration.Proofs.Stages

/-!
# What a run fails with, and whether that is reported

A run meets an error when one of its stages fails and none before it does (`Surroundings.Meets`):
the settings or the batch cannot be loaded, an edge cannot be resolved, the statements do not pass,
the script cannot be rendered or written, or what is written out cannot be encoded. A run ends with
an error exactly when it meets it (`CommandLine.error?_eq_some_iff`).

Which errors leave a command follows from their classes and from where they come up. They are listed
one by one (`RunError.Escapes`): every fault of the settings, since these are loaded before anything
is handled; a few faults of YAML scalars; a dialect with a setting of the wrong kind; a toolkit that
breaks down; and the refusals of the system. So a run ends well or reports why it does not exactly
when it meets none of them (`CommandLine.endsReported_iff`).

Documents and settings are read here however deep they nest; that a reader may give up at some depth
is set aside.
-/

namespace SchemaMigration.CommandLine

/-! ## Errors that a run meets -/

/-- The file that a request works on. -/
def Request.file? : Request → Option FilePath
  | help => none
  | render file _ _ => some file
  | deps file _ _ => some file
  | validate file _ _ => some file

/-- The edge document of the marked batch of a file. -/
def Surroundings.markedEdges? (s : Surroundings) (file : FilePath) : Option String :=
  s.markedText? file fun batch => (edgeText .json batch).result

/-- The planned script of the marked batch of a file. -/
def Surroundings.markedScript? (s : Surroundings) (file : FilePath) (plan : RenderPlan) :
    Option String :=
  s.markedText? file fun batch => (plan.scriptOf batch).result

/-- A statement depends on something that its names do not tell, or the edge document is JSON and
cannot be encoded. -/
inductive Surroundings.FailsToList (s : Surroundings) (file : FilePath) (batch : Batch) :
    OutputFormat → RunError → Prop where
  | edges {format : OutputFormat} {error : DependencyError}
      (h : batch.edges.result = .error error) :
      FailsToList s file batch format (.step (.edges error))
  | text {entries : List StatementEdges} {fault : Text.EncodingFault}
      (hedges : batch.edges.result = .ok entries)
      (h : Text.encode plain (Json.render (edgeDocument entries) ++ "\n") (s.markedEdges? file) =
        .error fault) :
      FailsToList s file batch .json (.encoding fault)

/-- A stage of what is asked for fails, and no stage before it. -/
inductive Surroundings.Meets (s : Surroundings) : Request → RunError → Prop where
  /-- The settings or the batch cannot be loaded. -/
  | load {request : Request} {file : FilePath} {failure : Failure}
      (hfile : request.file? = some file) (h : s.FailsToLoad file failure) :
      Meets s request (.step failure)
  /-- The edges of the batch cannot be listed. -/
  | edges {file : FilePath} {format : Option OutputFormat} {verbose : Bool} {settings : Settings}
      {batch : Batch} {error : RunError} (hload : s.Loads file settings batch)
      (h : s.FailsToList file batch (format.getD settings.outputFormat) error) :
      Meets s (.deps file format verbose) error
  /-- The statements are checked and do not pass. -/
  | validate {file : FilePath} {dialect : Option String} {verbose : Bool} {settings : Settings}
      {batch : Batch} {failure : Failure} (hload : s.Loads file settings batch)
      (h : FailsToCheck s.toolkit (dialect.getD settings.dialect) true batch failure) :
      Meets s (.validate file dialect verbose) (.step failure)
  /-- The statements of a script are checked and do not pass, or there is no checker. -/
  | check {file : FilePath} {options : RenderOptions} {verbose : Bool} {settings : Settings}
      {batch : Batch} {failure : Failure} (hload : s.Loads file settings batch)
      (hneeded : options.needsChecker settings = true)
      (h : FailsToCheck s.toolkit (options.dialect.getD settings.dialect)
        (options.isChecked settings) batch failure) :
      Meets s (.render file options verbose) (.step failure)
  /-- A directory that leads to the script cannot be made. -/
  | directory {file : FilePath} {options : RenderOptions} {verbose : Bool} {plan : RenderPlan}
      {path : FilePath} {made : FileTree} {error : FileError} (hplan : s.Plans file options plan)
      (houtput : options.output = some path)
      (h : s.tree.withDirectoriesTo path = (made, .error error)) :
      Meets s (.render file options verbose) (.step (.system error))
  /-- A statement of a script cannot be converted. -/
  | conversion {file : FilePath} {options : RenderOptions} {verbose : Bool} {plan : RenderPlan}
      {statement : Statement} {fault : Checker.Fault} (hplan : s.Plans file options plan)
      (hmade : ∀ path, options.output = some path → (s.tree.withDirectoriesTo path).2 = .ok ())
      (h : FirstFailure (fun statement => (plan.renderer statement).result) plan.batch statement
        fault) :
      Meets s (.render file options verbose) (.step (.check fault))
  /-- The file of the script cannot be opened. -/
  | script {file : FilePath} {options : RenderOptions} {verbose : Bool} {plan : RenderPlan}
      {path : FilePath} {made : FileTree} {text : String} {error : FileError}
      (hplan : s.Plans file options plan) (houtput : options.output = some path)
      (hmade : s.tree.withDirectoriesTo path = (made, .ok ()))
      (hscript : (plan.scriptOf plan.batch).result = .ok text)
      (h : made.write path [] = .error error) :
      Meets s (.render file options verbose) (.step (.system error))
  /-- The file of the script is open, and the script cannot be encoded. -/
  | fileText {file : FilePath} {options : RenderOptions} {verbose : Bool} {plan : RenderPlan}
      {path : FilePath} {made after : FileTree} {text : String} {fault : Text.EncodingFault}
      (hplan : s.Plans file options plan) (houtput : options.output = some path)
      (hmade : s.tree.withDirectoriesTo path = (made, .ok ()))
      (hscript : (plan.scriptOf plan.batch).result = .ok text)
      (hopen : made.write path [] = .ok after)
      (h : Text.encode id text (s.markedScript? file plan) = .error fault) :
      Meets s (.render file options verbose) (.encoding fault)
  /-- The script goes to the output and cannot be encoded. -/
  | scriptText {file : FilePath} {options : RenderOptions} {verbose : Bool} {plan : RenderPlan}
      {text : String} {fault : Text.EncodingFault} (hplan : s.Plans file options plan)
      (houtput : options.output = none)
      (hscript : (plan.scriptOf plan.batch).result = .ok text)
      (h : Text.encode plain text (s.markedScript? file plan) = .error fault) :
      Meets s (.render file options verbose) (.encoding fault)

variable {s : Surroundings} {request : Request} {outcome : Outcome} {error : RunError}
  {file : FilePath}

/-! ## Checking -/

/-- The block of a check fails at its batch, or as the check does. -/
theorem steps_check_eq_error_iff {dialect : Option String} {settings : Settings} :
    (reportStep (check s file dialect settings)).result = .error error ↔
      (∃ fault, (Batch.load s.tree file).result = .error fault ∧ error = .step (.file fault)) ∨
        ∃ batch, (Batch.load s.tree file).result = .ok batch ∧ ∃ failure,
          FailsToCheck s.toolkit (dialect.getD settings.dialect) true batch failure ∧
            error = .step failure := by
  rw [reportStep_eq_error_iff, check_eq]
  constructor
  · rintro ⟨failure, h, rfl⟩
    -- Either there is no batch to check, or the check fails.
    rcases Surroundings.batch_bind_eq_error_iff.mp h with ⟨fault, hbatch, rfl⟩ | ⟨batch, hbatch, h⟩
    · exact .inl ⟨fault, hbatch, rfl⟩
    · rcases checking_eq_error_iff.mp h with h | ⟨checker, -, -, h⟩
      · exact .inr ⟨batch, hbatch, failure, h, rfl⟩
      -- A check that passes only notes what it has checked, which cannot fail.
      · cases h
  · rintro (⟨fault, hbatch, rfl⟩ | ⟨batch, hbatch, failure, h, rfl⟩)
    · exact ⟨_, Surroundings.batch_bind_eq_error_iff.mpr (.inl ⟨fault, hbatch, rfl⟩), rfl⟩
    · exact ⟨failure, Surroundings.batch_bind_eq_error_iff.mpr
        (.inr ⟨batch, hbatch, checking_eq_error_iff.mpr (.inl h)⟩), rfl⟩

theorem error?_validate_eq_some_iff {dialect : Option String} (verbose : Bool) :
    (validate s file dialect).ending.error? = some error ↔
      s.Meets (.validate file dialect verbose) error := by
  rw [validate]
  refine Iff.trans (Surroundings.error?_run_eq_some_iff fun _ _ => steps_check_eq_error_iff) ?_
  constructor
  · rintro (⟨failure, h, rfl⟩ | ⟨settings, batch, hload, failure, h, rfl⟩)
    · exact .load rfl h
    · exact .validate hload h
  · intro h
    cases h with
    | load hfile h =>
      -- What is loaded is the file that the request names.
      cases hfile
      exact .inl ⟨_, h, rfl⟩
    | validate hload h => exact .inr ⟨_, _, hload, _, h, rfl⟩

/-! ## Listing edges -/

theorem edgeText_eq_ok_iff {format : OutputFormat} {batch : Batch} {text : String} :
    (edgeText format batch).result = .ok text ↔
      ∃ entries, batch.edges.result = .ok entries ∧
        format.render (edgeDocument entries) ++ "\n" = text := by
  rw [edgeText, Logged.bind_eq_ok_iff]
  exact exists_congr fun entries => and_congr_right fun _ => ⟨Except.ok.inj, congrArg _⟩

theorem edgeText_eq_error_iff {format : OutputFormat} {batch : Batch} {error : DependencyError} :
    (edgeText format batch).result = .error error ↔ batch.edges.result = .error error := by
  rw [edgeText, Logged.bind_eq_error_iff]
  constructor
  · rintro (h | ⟨entries, -, h⟩)
    · exact h
    · cases h
  · exact .inl

/-- The block that lists edges fails at its batch, or as the listing does. -/
theorem listEdges_eq_error_iff {format : OutputFormat} :
    (listEdges s file format).result = .error error ↔
      (∃ fault, (Batch.load s.tree file).result = .error fault ∧ error = .step (.file fault)) ∨
        ∃ batch, (Batch.load s.tree file).result = .ok batch ∧
          s.FailsToList file batch format error := by
  rw [listEdges, Logged.bind_eq_error_iff]
  constructor
  -- Up to the batch, then up to the text, then the encoding of the text.
  · rintro (h | ⟨batch, hbatch, h⟩)
    · obtain ⟨failure, hstep, rfl⟩ := reportStep_eq_error_iff.mp h
      obtain ⟨fault, hfault, rfl⟩ := Logged.mapError_eq_error_iff.mp hstep
      exact .inl ⟨fault, hfault, rfl⟩
    · refine .inr ⟨batch, Surroundings.batch_eq_ok_iff.mp (reportStep_eq_ok_iff.mp hbatch), ?_⟩
      rcases Logged.bind_eq_error_iff.mp h with h | ⟨text, htext, h⟩
      · obtain ⟨failure, hstep, rfl⟩ := reportStep_eq_error_iff.mp h
        obtain ⟨cause, hcause, rfl⟩ := Logged.mapError_eq_error_iff.mp hstep
        exact .edges (edgeText_eq_error_iff.mp hcause)
      · obtain ⟨entries, hentries, rfl⟩ :=
          edgeText_eq_ok_iff.mp (Logged.mapError_eq_ok_iff.mp (reportStep_eq_ok_iff.mp htext))
        cases format with
        | json =>
          -- Only JSON can have halves in it.
          obtain ⟨fault, hfault, rfl⟩ := Surroundings.echo_eq_error_iff.mp h
          exact .text hentries hfault
        -- YAML is written with escapes, so its text can always be encoded.
        | yaml => cases h
  · rintro (⟨fault, hfault, rfl⟩ | ⟨batch, hbatch, h⟩)
    · exact .inl (reportStep_eq_error_iff.mpr
        ⟨_, Logged.mapError_eq_error_iff.mpr ⟨fault, hfault, rfl⟩, rfl⟩)
    · have hloaded := reportStep_eq_ok_iff.mpr (Surroundings.batch_eq_ok_iff.mpr hbatch)
      refine .inr ⟨batch, hloaded, Logged.bind_eq_error_iff.mpr ?_⟩
      cases h with
      | edges h =>
        exact .inl (reportStep_eq_error_iff.mpr
          ⟨_, Logged.mapError_eq_error_iff.mpr ⟨_, edgeText_eq_error_iff.mpr h, rfl⟩, rfl⟩)
      | text hentries h =>
        refine .inr ⟨_, reportStep_eq_ok_iff.mpr
          (Logged.mapError_eq_ok_iff.mpr (edgeText_eq_ok_iff.mpr ⟨_, hentries, rfl⟩)), ?_⟩
        exact Surroundings.echo_eq_error_iff.mpr ⟨_, h, rfl⟩

theorem error?_deps_eq_some_iff {format : Option OutputFormat} (verbose : Bool) :
    (deps s file format).ending.error? = some error ↔
      s.Meets (.deps file format verbose) error := by
  rw [deps]
  refine Iff.trans (Surroundings.error?_run_eq_some_iff fun _ _ => listEdges_eq_error_iff) ?_
  constructor
  · rintro (⟨failure, h, rfl⟩ | ⟨settings, batch, hload, h⟩)
    · exact .load rfl h
    · exact .edges hload h
  · intro h
    cases h with
    | load hfile h =>
      cases hfile
      exact .inl ⟨_, h, rfl⟩
    | edges hload h => exact .inr ⟨_, _, hload, h⟩

/-! ## Rendering -/

variable {options : RenderOptions} {settings : Settings}

/-- A script that is planned is not there when a statement of it cannot be rendered. -/
theorem reportCheck_scriptOf_eq_error_iff {plan : RenderPlan} {failure : Failure} :
    (reportCheck (plan.scriptOf plan.batch)).result = .error failure ↔
      ∃ statement fault,
        FirstFailure (fun statement => (plan.renderer statement).result) plan.batch statement
            fault ∧
          failure = .check fault := by
  rw [reportCheck, Logged.mapError_eq_error_iff]
  constructor
  · rintro ⟨fault, h, rfl⟩
    obtain ⟨statement, hfirst⟩ := Batch.scriptWith_eq_error_iff.mp h
    exact ⟨statement, fault, hfirst, rfl⟩
  · rintro ⟨statement, fault, hfirst, rfl⟩
    exact ⟨fault, Batch.scriptWith_eq_error_iff.mpr ⟨statement, hfirst⟩, rfl⟩

/-- A script does not get to its file when it is not planned or not written. -/
theorem steps_renderToFile_eq_error_iff {plan : Logged Failure RenderPlan} {path : FilePath} :
    (renderToFile s file plan path).steps.result = .error error ↔
      (∃ failure, plan.result = .error failure ∧ error = .step failure) ∨
        ∃ found fault, plan.result = .ok found ∧
          (found.batch.writeEncoded (found.encodeToFile s file) s.tree path found.renderer
            found.terminator).2.result = .error fault ∧ error = .ofWrite fault := by
  unfold renderToFile
  cases plan.result with
  | error cause =>
    constructor
    · intro h
      cases h
      exact .inl ⟨cause, rfl, rfl⟩
    · rintro (⟨failure, h, rfl⟩ | ⟨found, fault, h, -⟩)
      · cases h
        rfl
      · cases h
  | ok found =>
    dsimp only
    constructor
    · intro h
      refine .inr ⟨found, ?_⟩
      -- The block fails as the writing does: where that succeeds, a note is written out.
      split at h
      · cases h
      · next fault hfault =>
        cases h
        exact ⟨fault, rfl, hfault, rfl⟩
    · rintro (⟨failure, h, -⟩ | ⟨found', fault, h, hfault, rfl⟩)
      · cases h
      · cases h
        simp only [hfault]

/-- A script is not written out when it is not planned, not rendered or not encoded. -/
theorem renderToOutput_eq_error_iff {plan : Logged Failure RenderPlan} :
    (renderToOutput s file plan).result = .error error ↔
      (∃ failure, plan.result = .error failure ∧ error = .step failure) ∨
        ∃ found, plan.result = .ok found ∧
          ((∃ failure, (reportCheck (found.scriptOf found.batch)).result = .error failure ∧
              error = .step failure) ∨
            ∃ text fault, (found.scriptOf found.batch).result = .ok text ∧
              Text.encode plain text (s.markedScript? file found) = .error fault ∧
                error = .encoding fault) := by
  rw [renderToOutput, Logged.bind_eq_error_iff]
  constructor
  -- The plan fails, or the script behind it, or its encoding.
  · rintro (h | ⟨found, hplan, h⟩)
    · obtain ⟨failure, hfailure, rfl⟩ := reportStep_eq_error_iff.mp h
      exact .inl ⟨failure, hfailure, rfl⟩
    · refine .inr ⟨found, reportStep_eq_ok_iff.mp hplan, ?_⟩
      rcases Logged.bind_eq_error_iff.mp h with h | ⟨text, hscript, h⟩
      · obtain ⟨failure, hfailure, rfl⟩ := reportStep_eq_error_iff.mp h
        exact .inl ⟨failure, hfailure, rfl⟩
      · obtain ⟨fault, hfault, rfl⟩ := Surroundings.echo_eq_error_iff.mp h
        have hfound := Logged.mapError_eq_ok_iff.mp (reportStep_eq_ok_iff.mp hscript)
        exact .inr ⟨text, fault, hfound, hfault, rfl⟩
  · rintro (⟨failure, hfailure, rfl⟩ | ⟨found, hplan, h⟩)
    · exact .inl (reportStep_eq_error_iff.mpr ⟨failure, hfailure, rfl⟩)
    · refine .inr ⟨found, reportStep_eq_ok_iff.mpr hplan, Logged.bind_eq_error_iff.mpr ?_⟩
      rcases h with ⟨failure, hfailure, rfl⟩ | ⟨text, fault, hscript, hfault, rfl⟩
      · exact .inl (reportStep_eq_error_iff.mpr ⟨failure, hfailure, rfl⟩)
      · refine .inr ⟨text, reportStep_eq_ok_iff.mpr (Logged.mapError_eq_ok_iff.mpr hscript), ?_⟩
        exact Surroundings.echo_eq_error_iff.mpr ⟨fault, hfault, rfl⟩

theorem renderBlock_of_output_eq_none (houtput : options.output = none) :
    renderBlock s file options settings =
      ⟨s.tree, renderToOutput s file (renderPlan s file options settings)⟩ := by
  unfold renderBlock
  rw [houtput]

theorem renderBlock_of_output_eq_some {path : FilePath} (houtput : options.output = some path) :
    renderBlock s file options settings =
      renderToFile s file (renderPlan s file options settings) path := by
  unfold renderBlock
  rw [houtput]

/-- A script is not there when it is not planned, wherever it should go. -/
theorem steps_renderBlock_of_renderPlan_eq_error {failure : Failure}
    (h : (renderPlan s file options settings).result = .error failure) :
    (renderBlock s file options settings).steps.result = .error (.step failure) := by
  cases houtput : options.output with
  -- Both ways of writing a script start with the plan and fail with it.
  | none =>
    rw [renderBlock_of_output_eq_none houtput]
    exact renderToOutput_eq_error_iff.mpr (.inl ⟨failure, h, rfl⟩)
  | some path =>
    rw [renderBlock_of_output_eq_some houtput, steps_renderToFile_eq_error_iff]
    exact .inl ⟨failure, h, rfl⟩

/-- A planned script does not get to its file when it is not written. -/
theorem steps_renderBlock_of_writes {plan : RenderPlan} {path : FilePath} {after : FileTree}
    {logged : Logged (WriteFault Checker.Fault Text.EncodingFault) Unit}
    {fault : WriteFault Checker.Fault Text.EncodingFault}
    (hplan : (renderPlan s file options settings).result = .ok plan)
    (houtput : options.output = some path)
    (h : plan.batch.Writes (plan.encodeToFile s file) s.tree path plan.renderer plan.terminator
      after logged) (hfault : logged.result = .error fault) :
    (renderBlock s file options settings).steps.result = .error (.ofWrite fault) := by
  rw [renderBlock_of_output_eq_some houtput, steps_renderToFile_eq_error_iff]
  exact .inr ⟨plan, fault, hplan, by rw [h.eq_writeEncoded, hfault], rfl⟩

theorem meets_of_renderPlan_eq_error (verbose : Bool) {failure : Failure}
    (hsettings : s.settings.result = .ok settings)
    (h : (renderPlan s file options settings).result = .error failure) :
    s.Meets (.render file options verbose) (.step failure) := by
  rcases renderPlan_eq_error_iff.mp h with ⟨fault, hbatch, rfl⟩ | ⟨batch, hbatch, hneeded, h⟩
  · exact .load rfl (.file hsettings hbatch)
  · exact .check ⟨hsettings, hbatch⟩ hneeded h

theorem meets_of_writes (verbose : Bool) {plan : RenderPlan} {path : FilePath} {after : FileTree}
    {logged : Logged (WriteFault Checker.Fault Text.EncodingFault) Unit}
    {fault : WriteFault Checker.Fault Text.EncodingFault}
    (hplan : s.Plans file options plan) (houtput : options.output = some path)
    (h : plan.batch.Writes (plan.encodeToFile s file) s.tree path plan.renderer plan.terminator
      after logged) (hfault : logged.result = .error fault) :
    s.Meets (.render file options verbose) (.ofWrite fault) := by
  -- One case for each way the writing of a script can end.
  cases h with
  | noDirectory hmade =>
    cases hfault
    exact .directory hplan houtput hmade
  | unrendered hmade hscript =>
    cases hfault
    obtain ⟨statement, hfirst⟩ := Batch.scriptWith_eq_error_iff.mp hscript
    -- The directories are there, since a statement is rendered only behind them.
    refine .conversion hplan ?_ hfirst
    intro path' hpath'
    rw [houtput] at hpath'
    cases hpath'
    rw [hmade]
  | refused hmade hscript hopen =>
    cases hfault
    exact .script hplan houtput hmade hscript hopen
  | unencoded hmade hscript hopen hencode =>
    cases hfault
    exact .fileText hplan houtput hmade hscript hopen hencode
  | written _ _ _ _ => cases hfault

/-- With these settings, whatever the block fails with is met. -/
theorem meets_of_renderBlock (verbose : Bool) (hsettings : s.settings.result = .ok settings)
    (h : (renderBlock s file options settings).steps.result = .error error) :
    s.Meets (.render file options verbose) error := by
  cases houtput : options.output with
  -- To the output: the plan, the statements that are rendered, the encoding.
  | none =>
    rw [renderBlock_of_output_eq_none houtput] at h
    rcases renderToOutput_eq_error_iff.mp h with ⟨failure, hplan, rfl⟩ | ⟨plan, hplan, h⟩
    · exact meets_of_renderPlan_eq_error verbose hsettings hplan
    · have hplans := (renderPlan_eq_ok_iff hsettings).mp hplan
      rcases h with ⟨failure, hscript, rfl⟩ | ⟨text, fault, hscript, hfault, rfl⟩
      · obtain ⟨statement, fault, hfirst, rfl⟩ := reportCheck_scriptOf_eq_error_iff.mp hscript
        refine .conversion hplans ?_ hfirst
        -- No directory is made for a script that goes to the output.
        intro path hpath
        rw [houtput] at hpath
        cases hpath
      · exact .scriptText hplans houtput hscript hfault
  | some path =>
    -- To a file: the plan, then whatever the writing of the file comes to.
    rw [renderBlock_of_output_eq_some houtput, steps_renderToFile_eq_error_iff] at h
    rcases h with ⟨failure, hplan, rfl⟩ | ⟨plan, fault, hplan, hfault, rfl⟩
    · exact meets_of_renderPlan_eq_error verbose hsettings hplan
    · exact meets_of_writes verbose ((renderPlan_eq_ok_iff hsettings).mp hplan) houtput
        (plan.batch.writes_writeEncoded (plan.encodeToFile s file) s.tree path plan.renderer
          plan.terminator) hfault

/-- With these settings, the block fails with whatever is met. -/
theorem renderBlock_of_meets {verbose : Bool} (hsettings : s.settings.result = .ok settings)
    (h : s.Meets (.render file options verbose) error) :
    (renderBlock s file options settings).steps.result = .error error := by
  -- Each way to meet an error says which step of the block fails with it.
  cases h with
  | load hfile h =>
    cases hfile
    -- The settings are there, so it is the file that could not be loaded.
    cases h with
    | settings h =>
      rw [Surroundings.settings, h] at hsettings
      cases hsettings
    | file _ h =>
      exact steps_renderBlock_of_renderPlan_eq_error
        (renderPlan_eq_error_iff.mpr (.inl ⟨_, h, rfl⟩))
  | check hload hneeded h =>
    cases hsettings.symm.trans hload.settings_eq
    exact steps_renderBlock_of_renderPlan_eq_error
      (renderPlan_eq_error_iff.mpr (.inr ⟨_, hload.batch_eq, hneeded, h⟩))
  | directory hplan houtput h =>
    exact steps_renderBlock_of_writes ((renderPlan_eq_ok_iff hsettings).mpr hplan) houtput
      (.noDirectory h) rfl
  | script hplan houtput hmade hscript h =>
    exact steps_renderBlock_of_writes ((renderPlan_eq_ok_iff hsettings).mpr hplan) houtput
      (.refused hmade hscript h) rfl
  | fileText hplan houtput hmade hscript hopen h =>
    exact steps_renderBlock_of_writes ((renderPlan_eq_ok_iff hsettings).mpr hplan) houtput
      (.unencoded hmade hscript hopen h) rfl
  | conversion hplan hmade h =>
    have hplanned := (renderPlan_eq_ok_iff hsettings).mpr hplan
    -- Where the script goes to a file, the directories are there before a statement is converted.
    cases houtput : options.output with
    | none =>
      rw [renderBlock_of_output_eq_none houtput]
      exact renderToOutput_eq_error_iff.mpr (.inr ⟨_, hplanned,
        .inl ⟨_, reportCheck_scriptOf_eq_error_iff.mpr ⟨_, _, h, rfl⟩, rfl⟩⟩)
    | some path =>
      have hdirectories : s.tree.withDirectoriesTo path =
          ((s.tree.withDirectoriesTo path).1, .ok ()) := Prod.ext rfl (hmade path houtput)
      exact steps_renderBlock_of_writes hplanned houtput
        (.unrendered hdirectories (Batch.scriptWith_eq_error_iff.mpr ⟨_, h⟩)) rfl
  | scriptText hplan houtput hscript h =>
    rw [renderBlock_of_output_eq_none houtput]
    exact renderToOutput_eq_error_iff.mpr
      (.inr ⟨_, (renderPlan_eq_ok_iff hsettings).mpr hplan, .inr ⟨_, _, hscript, h, rfl⟩⟩)

/-- A script fails to be planned, to be rendered, or to be written. -/
theorem error?_render_eq_some_iff (verbose : Bool) :
    (render s file options).ending.error? = some error ↔
      s.Meets (.render file options verbose) error := by
  rw [render, Command.error?_run_eq_some_iff]
  constructor
  · rintro (⟨fault, hsettings, rfl⟩ | ⟨settings, hsettings, h⟩)
    · exact .load rfl (.settings hsettings)
    · exact meets_of_renderBlock verbose hsettings h
  · intro h
    cases hsettings : s.settings.result with
    | ok settings => exact .inr ⟨settings, rfl, renderBlock_of_meets hsettings h⟩
    | error fault =>
      -- Without settings nothing else is met.
      have hnone : ∀ settings batch, ¬s.Loads file settings batch := by
        intro settings batch hload
        cases hsettings.symm.trans hload.settings_eq
      have hunplanned : ∀ plan, ¬s.Plans file options plan := by
        intro plan hplan
        obtain ⟨settings, hload, -⟩ := hplan.exists_loads
        exact hnone settings _ hload
      cases h with
      | load hfile h =>
        cases hfile
        cases h with
        | settings h =>
          cases hsettings.symm.trans h
          exact .inl ⟨_, rfl, rfl⟩
        | file h _ => cases hsettings.symm.trans h
      | check hload _ _ => exact absurd hload (hnone _ _)
      | directory hplan _ _ => exact absurd hplan (hunplanned _)
      | conversion hplan _ _ => exact absurd hplan (hunplanned _)
      | script hplan _ _ _ _ => exact absurd hplan (hunplanned _)
      | fileText hplan _ _ _ _ _ => exact absurd hplan (hunplanned _)
      | scriptText hplan _ _ _ => exact absurd hplan (hunplanned _)

/-! ## Requests -/

/-- A run of a request is a run of a command. -/
theorem Request.exists_run (hrun : request.run s = some outcome) :
    ∃ (command : Command) (block : Settings → Block), outcome = command.run s block := by
  cases request with
  | help => cases hrun
  | render file options verbose =>
    cases hrun
    exact ⟨.render, _, rfl⟩
  | deps file format verbose =>
    cases hrun
    exact ⟨.deps, _, rfl⟩
  | validate file dialect verbose =>
    cases hrun
    exact ⟨.validate, _, rfl⟩

/-- A run ends with an error exactly when it meets it. -/
theorem error?_eq_some_iff (hrun : request.run s = some outcome) :
    outcome.ending.error? = some error ↔ s.Meets request error := by
  cases request with
  | help => cases hrun
  | render file options verbose =>
    cases hrun
    exact error?_render_eq_some_iff verbose
  | deps file format verbose =>
    cases hrun
    exact error?_deps_eq_some_iff verbose
  | validate file dialect verbose =>
    cases hrun
    exact error?_validate_eq_some_iff verbose

/-! ## Errors that leave a command -/

/-- The errors that leave a command. -/
inductive RunError.Escapes : RunError → Prop where
  /-- The settings are loaded before the block, and so a fault in them is handled by nobody. -/
  | settings (fault : Settings.Fault) : Escapes (.step (.settings fault))
  /-- A YAML scalar is tagged as a boolean and is no word for one. -/
  | notABool (text : List Text.CodePoint) : Escapes (.step (.file (.yaml (.notABool text))))
  /-- A YAML scalar is tagged as a timestamp and is none. -/
  | notATimestamp : Escapes (.step (.file (.yaml .notATimestamp)))
  /-- A YAML mapping is tagged as a timestamp. -/
  | timestampNotScalar : Escapes (.step (.file (.yaml .timestampNotScalar)))
  /-- A YAML scalar is tagged as a number and has no digit. -/
  | noDigits : Escapes (.step (.file (.yaml .noDigits)))
  /-- An escape in YAML names a code that no machine integer holds. -/
  | codeTooLarge : Escapes (.step (.file (.yaml .codeTooLarge)))
  /-- A YAML number in base sixty has a part whose weight no double holds. -/
  | weightTooLarge : Escapes (.step (.file (.yaml .weightTooLarge)))
  /-- A dialect has a setting of the wrong kind. -/
  | badDialect {fault : Dialect.Fault} (h : fault.isWrongKind = true) :
      Escapes (.step (.check (.badDialect fault)))
  /-- The toolkit breaks down. -/
  | crashed (reason : String) : Escapes (.step (.check (.crashed reason)))
  /-- The system refuses to make a directory or to write the script. A path with a NUL does not get
  to the system. -/
  | system {error : FileError} (h : error.cause ≠ .nul) : Escapes (.step (.system error))

/-- All commands handle the same errors. -/
theorem Command.handles_eq (command : Command) (error : RunError) :
    command.handles error =
      (error.errorClass.isA .migrastError || error.errorClass.isA .valueError) := by
  cases command <;> simp [handles, handled]

/-- Of the faults of a YAML text, those that are bad values are handled. -/
theorem Command.handles_yaml_iff (command : Command) {fault : Yaml.Fault}
    (hmade : fault ≠ .malformed) :
    command.handles (.step (.file (.yaml fault))) = true ↔
      ¬RunError.Escapes (.step (.file (.yaml fault))) := by
  rw [handles_eq]
  -- Wrong values are handled, undecodable bytes among them; the other faults of making a value
  -- escape.
  cases fault with
  | malformed => exact absurd rfl hmade
  | undecodable fault => exact ⟨fun _ => nofun, fun _ => rfl⟩
  | codeOutOfRange => exact ⟨fun _ => nofun, fun _ => rfl⟩
  | badNumber cause => exact ⟨fun _ => nofun, fun _ => rfl⟩
  | badDate cause => exact ⟨fun _ => nofun, fun _ => rfl⟩
  | badClock cause => exact ⟨fun _ => nofun, fun _ => rfl⟩
  | badOffset minutes => exact ⟨fun _ => nofun, fun _ => rfl⟩
  | codeTooLarge => exact ⟨nofun, absurd .codeTooLarge⟩
  | weightTooLarge => exact ⟨nofun, absurd .weightTooLarge⟩
  | notABool text => exact ⟨nofun, absurd (.notABool text)⟩
  | notATimestamp => exact ⟨nofun, absurd .notATimestamp⟩
  | timestampNotScalar => exact ⟨nofun, absurd .timestampNotScalar⟩
  | noDigits => exact ⟨nofun, absurd .noDigits⟩

/-- In its block a command handles the errors that do not leave it, and no others. Malformed YAML is
refused with a load error, so there is none with the fault itself. -/
theorem Command.handles_iff (command : Command) {error : RunError}
    (hsettings : ∀ fault, error ≠ .step (.settings fault))
    (hmade : error ≠ .step (.file (.yaml .malformed))) :
    command.handles error = true ↔ ¬error.Escapes := by
  cases error with
  | encoding fault =>
    rw [handles_eq]
    exact ⟨fun _ => nofun, fun _ => rfl⟩
  | step failure =>
    cases failure with
    -- Faults of the settings come up before the block, so its handlers do not count.
    | settings fault => exact absurd rfl (hsettings fault)
    | edges error =>
      rw [handles_eq]
      exact ⟨fun _ => nofun, fun _ => rfl⟩
    | file fault =>
      cases fault with
      | yaml fault => exact command.handles_yaml_iff fun h => hmade (by rw [h])
      | refused error =>
        -- The class depends on whether the fault has a place, and both classes are handled.
        rw [handles_eq, RunError.errorClass, Failure.errorClass, Document.FileFault.errorClass]
        refine ⟨fun _ => nofun, fun _ => ?_⟩
        split
        · rfl
        · rfl
      | badPath error =>
        rw [handles_eq]
        exact ⟨fun _ => nofun, fun _ => rfl⟩
      | notText fault =>
        rw [handles_eq]
        exact ⟨fun _ => nofun, fun _ => rfl⟩
      | jsonNumber error =>
        rw [handles_eq]
        exact ⟨fun _ => nofun, fun _ => rfl⟩
    | check fault =>
      rw [handles_eq]
      cases fault with
      | rejected rejection => exact ⟨fun _ => nofun, fun _ => rfl⟩
      | failed reason => exact ⟨fun _ => nofun, fun _ => rfl⟩
      | crashed reason => exact ⟨nofun, absurd (.crashed reason)⟩
      | badDialect fault =>
        cases fault with
        | comparisonNotText => exact ⟨nofun, absurd (.badDialect rfl)⟩
        | unknownName name known => exact ⟨fun _ => nofun, fun _ => rfl⟩
        | badVersion cause => exact ⟨fun _ => nofun, fun _ => rfl⟩
        | unknownComparison name => exact ⟨fun _ => nofun, fun _ => rfl⟩
        | unknownSetting name => exact ⟨fun _ => nofun, fun _ => rfl⟩
    | system error =>
      rw [handles_eq]
      -- A path with a NUL in it is a wrong value; every other refusal is left to the system.
      by_cases hcause : error.cause = .nul
      · have hclass : RunError.errorClass (.step (.system error)) = .valueError := if_pos hcause
        rw [hclass]
        refine ⟨fun _ hescapes => ?_, fun _ => rfl⟩
        cases hescapes with
        | system h => exact h hcause
      · have hclass : RunError.errorClass (.step (.system error)) = .osError := if_neg hcause
        rw [hclass]
        exact ⟨nofun, absurd (.system hcause)⟩

theorem settings_eq_error_of_meets {fault : Settings.Fault}
    (h : s.Meets request (.step (.settings fault))) : s.settings.result = .error fault := by
  cases h with
  | load hfile h =>
    cases h with
    | settings h => exact h
  -- An edge or a statement fails with an error of its own kind.
  | edges _ h =>
    generalize Option.getD _ _ = format at h
    cases h
  | validate _ h => cases h
  | check _ _ h => cases h

theorem ne_malformed_of_load {tree : FileTree} {path : FilePath} {fault : Yaml.Fault}
    (h : (Batch.load tree path).result = .error (.yaml fault)) : fault ≠ .malformed := by
  -- A fault of loading is reported or escapes, and what escapes is told by its kind.
  rcases Batch.loadsOrReports_or_escapes tree path with
    (⟨batch, hbatch⟩ | ⟨error, herror, -⟩) | ⟨escaping, hescapes⟩
  · cases hbatch.symm.trans h
  · cases herror.symm.trans h
  · cases hescapes.result_eq.symm.trans h
    cases hescapes with
    | unmade _ _ hmade => exact hmade

theorem not_meets_malformed : ¬s.Meets request (.step (.file (.yaml .malformed))) := by
  intro h
  cases h with
  | load hfile h =>
    cases h with
    | file _ h => exact ne_malformed_of_load h rfl
  | edges _ h =>
    generalize Option.getD _ _ = format at h
    cases h
  | validate _ h => cases h
  | check _ _ h => cases h

/-- Whether an error that is met leaves the command is decided by what it is. -/
theorem ending_of_meets (hrun : request.run s = some outcome) (h : s.Meets request error) :
    (error.Escapes → outcome.ending = .escaped error) ∧
      (¬error.Escapes → outcome.ending = .reported error) := by
  have herror := (error?_eq_some_iff hrun).mpr h
  obtain ⟨command, block, rfl⟩ := Request.exists_run hrun
  -- The run ends before its block, in its block, or well.
  rcases Command.run_cases command s block with ⟨fault, -, hending⟩ |
    ⟨settings, cause, hsettings, -, hending⟩ | ⟨settings, output, -, -, hending⟩
  · rw [hending] at herror ⊢
    cases herror
    exact ⟨fun _ => rfl, absurd (.settings fault)⟩
  · rw [hending, Command.error?_ending] at herror
    cases herror
    -- The settings are there, so this error came up in the block.
    have hblock : ∀ fault, error ≠ .step (.settings fault) := by
      rintro fault rfl
      cases hsettings.symm.trans (settings_eq_error_of_meets h)
    have hhandles := command.handles_iff hblock fun hfault => not_meets_malformed (hfault ▸ h)
    rw [hending, Command.ending]
    constructor
    · intro hescapes
      rw [if_neg fun hhandled => hhandles.mp hhandled hescapes]
    · intro hkept
      rw [if_pos (hhandles.mpr hkept)]
  · rw [hending] at herror
    cases herror

/-! ## Reports -/

/-- The run ends with code 0, or it ends with code 1 and its error is handled: the line that reports
it follows what was logged. -/
def Outcome.EndsReported (outcome : Outcome) : Prop :=
  outcome.ending.code = 0 ∨
    outcome.ending.code = 1 ∧ ∃ error, outcome.ending = .reported error ∧ ∀ verbose,
      outcome.remarks verbose =
        logLines verbose outcome.records ++ (plain ("Error: " ++ error.message) ++ "\n")

theorem endsReported_of_reported (h : outcome.ending = .reported error) :
    outcome.EndsReported := by
  refine .inr ⟨by rw [h]; rfl, error, h, fun verbose => ?_⟩
  rw [Outcome.remarks, h]
  rfl

theorem not_endsReported_of_escaped (h : outcome.ending = .escaped error) :
    ¬outcome.EndsReported := by
  rintro (hcode | ⟨-, reported, hreported, -⟩)
  · rw [h] at hcode
    cases hcode
  · rw [h] at hreported
    cases hreported

/-- **A run ends well or reports why it does not** exactly when it meets none of the errors that
leave a command; these are listed. An error that is met and is not one of them is reported. -/
theorem endsReported_iff (s : Surroundings) (request : Request) (outcome : Outcome)
    (hrun : request.run s = some outcome) :
    (outcome.EndsReported ↔ ∀ error, error.Escapes → ¬s.Meets request error) ∧
      ∀ error, s.Meets request error →
        (error.Escapes → outcome.ending = .escaped error) ∧
          (¬error.Escapes → outcome.ending = .reported error) := by
  refine ⟨⟨?_, ?_⟩, fun error => ending_of_meets hrun⟩
  · intro hreported error hescapes hmeets
    exact not_endsReported_of_escaped ((ending_of_meets hrun hmeets).1 hescapes) hreported
  · intro h
    -- A run that ends with an error has met it.
    cases hending : outcome.ending with
    | success => exact .inl (by rw [hending]; rfl)
    | reported error => exact endsReported_of_reported hending
    | escaped error =>
      have hmeets := (error?_eq_some_iff hrun).mp (by rw [hending]; rfl : _ = some error)
      have hescapes : ¬error.Escapes := fun hescapes => h error hescapes hmeets
      cases hending.symm.trans ((ending_of_meets hrun hmeets).2 hescapes)

/-- A place where only the environment differs. -/
def inEnvironment (environment : Environment) : Surroundings :=
  .besideJson [] environment { check := fun _ _ => .ok (), convert := fun _ _ sql => .ok sql }

/-- A file of an unknown kind is reported; a format that is unknown to the settings is not. -/
theorem endsReported_inEnvironment :
    (∃ outcome, (Request.deps ⟨"", ["a.txt"]⟩ none false).run (inEnvironment []) = some outcome ∧
      outcome.EndsReported) ∧
    ∃ outcome, (Request.deps Surroundings.jsonPath none false).run
        (inEnvironment [("MIGRAST_FORMAT", "xml")]) = some outcome ∧
      outcome.ending = .escaped (.step (.settings (.unknownFormat "xml"))) ∧
      ¬outcome.EndsReported := by
  -- The theorem is used twice, once for a file that is refused and once for a setting.
  have htext := endsReported_iff (inEnvironment []) (.deps ⟨"", ["a.txt"]⟩ none false) _ rfl
  have hjson := endsReported_iff (inEnvironment [("MIGRAST_FORMAT", "xml")])
    (.deps Surroundings.jsonPath none false) _ rfl
  refine ⟨⟨_, rfl, ?_⟩, _, rfl, ?_⟩
  · have hsettings : (Settings.load (inEnvironment []).tree (inEnvironment []).environment
        workingDirectory).result = .ok ⟨"postgres", false, .json, ";"⟩ :=
      Surroundings.settings_besideJson
    have hbatch : (Batch.load (inEnvironment []).tree ⟨"", ["a.txt"]⟩).result =
        .error (.refused (.whole "a.txt" .unsupportedFile)) := rfl
    have hmeets : (inEnvironment []).Meets (.deps ⟨"", ["a.txt"]⟩ none false)
        (.step (.file (.refused (.whole "a.txt" .unsupportedFile)))) :=
      .load rfl (.file hsettings hbatch)
    exact endsReported_of_reported ((htext.2 _ hmeets).2 nofun)
  · have hsettings : (Settings.load (inEnvironment [("MIGRAST_FORMAT", "xml")]).tree
        (inEnvironment [("MIGRAST_FORMAT", "xml")]).environment workingDirectory).result =
          .error (.unknownFormat "xml") := Surroundings.settings_besideJson
    have hmeets : (inEnvironment [("MIGRAST_FORMAT", "xml")]).Meets
        (.deps Surroundings.jsonPath none false) (.step (.settings (.unknownFormat "xml"))) :=
      .load rfl (.settings hsettings)
    refine ⟨(hjson.2 _ hmeets).1 (.settings _), fun h => ?_⟩
    exact hjson.1.mp h _ (.settings _) hmeets

end SchemaMigration.CommandLine
