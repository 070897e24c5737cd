import SchemaMigration.CommandLine.Run
import SchemaMigration.Proofs.Checking

/-!
# The stages of a run

Every command loads the settings, and its block starts with the batch of its file
(`Surroundings.Loads`); where one of them cannot be loaded, the run ends with that fault
(`Surroundings.error?_run_eq_some_iff`). A run that checks its statements goes on with a checker for
the dialect, and fails as the first statement that the toolkit does not read
(`CommandLine.checking_eq_error_iff`). What comes after a stage sees the results of the stages
before it, and nothing else.

Settings are loaded from the environment alone where no file holds any (`Settings.load_of_absent`).
A file gives a batch when its value can be read and the value is a batch (`Batch.load_eq_ok_iff`),
and a JSON file holds the value of its text (`Document.readFile_of_json`).
-/

namespace SchemaMigration

/-! ## Loading settings -/

namespace Settings

variable {tree : FileTree} {root : FilePath}

theorem tableFrom_of_absent (files : List SourceFile)
    (h : ∀ file ∈ files, tree.find? (root.child file.name) = .ok none) :
    (tableFrom tree root files).result = .ok [] := by
  induction files with
  | nil => rfl
  | cons file rest ih =>
    obtain ⟨hfile, hrest⟩ := List.forall_mem_cons.mp h
    -- The first file is not there, so the search goes on with the rest.
    rw [tableFrom, Logged.result_bind, readSource, hfile]
    exact ih hrest

/-- Without a file of settings, the environment alone decides. -/
theorem load_of_absent (environment : Environment)
    (h : ∀ file ∈ SourceFile.all, tree.find? (root.child file.name) = .ok none) :
    (load tree environment root).result = ofEntries (override environment []) := by
  rw [load, Logged.result_bind, tableFrom_of_absent SourceFile.all h]
  rfl

end Settings

/-! ## Loading a batch -/

theorem Document.readFile_of_json {tree : FileTree} {path : FilePath} {bytes : List UInt8}
    {chars : List Char} {value : Value} (hending : FileFormat.ofEnding? path.ending = some .json)
    (hread : tree.read path = .ok bytes) (htext : Text.ofUtf8 bytes = .ok chars)
    (hvalue : Json.read (String.ofList (Text.unifyNewlines chars)) = .ok value) :
    readFile tree path = .ok value := by
  have hjson : readJson path.render bytes = .ok value := by
    unfold readJson
    rw [htext]
    dsimp only
    rw [hvalue]
  unfold readFile
  rw [hending]
  dsimp only
  rw [hread]
  exact hjson

/-- A file gives a batch when its value can be read and the value is a batch. -/
theorem Batch.load_eq_ok_iff {tree : FileTree} {path : FilePath} {batch : Batch} :
    (load tree path).result = .ok batch ↔
      ∃ value, Document.readFile tree path = .ok value ∧ ofValue value = .ok batch := by
  simp only [load, Logged.bind_eq_ok_iff, Logged.result_ofExcept]
  refine exists_congr fun value => and_congr_right fun _ => ?_
  constructor
  -- Only the note on the number of statements comes behind the batch, and it changes nothing.
  · rintro ⟨found, hfound, _, -, h⟩
    cases h
    cases hvalue : ofValue value with
    | ok found =>
      rw [hvalue] at hfound
      cases hfound
      rfl
    | error fault =>
      rw [hvalue] at hfound
      cases hfound
  · intro h
    exact ⟨batch, by rw [h]; rfl, (), rfl, rfl⟩

theorem Batch.load_eq_ok {tree : FileTree} {path : FilePath} {value : Value} {batch : Batch}
    (hfile : Document.readFile tree path = .ok value) (hbatch : ofValue value = .ok batch) :
    (load tree path).result = .ok batch :=
  load_eq_ok_iff.mpr ⟨value, hfile, hbatch⟩

namespace CommandLine

variable {α : Type} {s : Surroundings} {file : FilePath} {settings : Settings} {batch : Batch}
  {failure : Failure}

/-! ## How runs end -/

/-- The error with which a run ends, handled or not. -/
def Ending.error? : Ending → Option RunError
  | success => none
  | reported error => some error
  | escaped error => some error

namespace Command

variable {command : Command} {block : Settings → Block} {output : String} {error : RunError}

@[simp] theorem error?_ending (command : Command) (error : RunError) :
    (command.ending error).error? = some error := by
  unfold ending
  split
  · rfl
  · rfl

theorem run_of_settings_eq_error {fault : Settings.Fault}
    (h : s.settings.result = .error fault) :
    command.run s block =
      ⟨s.tree, "", s.settings.records, .escaped (.step (.settings fault))⟩ := by
  unfold run
  dsimp only
  rw [h]

theorem run_of_steps_eq_ok (hsettings : s.settings.result = .ok settings)
    (h : (block settings).steps.result = .ok output) :
    command.run s block =
      ⟨(block settings).tree, output, s.settings.records ++ (block settings).steps.records,
        .success⟩ := by
  unfold run
  dsimp only
  rw [hsettings]
  dsimp only
  rw [h]

theorem run_of_steps_eq_error (hsettings : s.settings.result = .ok settings)
    (h : (block settings).steps.result = .error error) :
    command.run s block =
      ⟨(block settings).tree, "", s.settings.records ++ (block settings).steps.records,
        command.ending error⟩ := by
  unfold run
  dsimp only
  rw [hsettings]
  dsimp only
  rw [h]

/-- A run fails before its block or in it. Before the block, no error is handled. -/
theorem run_cases (command : Command) (s : Surroundings) (block : Settings → Block) :
    (∃ fault, s.settings.result = .error fault ∧
      (command.run s block).ending = .escaped (.step (.settings fault))) ∨
    (∃ settings error, s.settings.result = .ok settings ∧
      (block settings).steps.result = .error error ∧
      (command.run s block).ending = command.ending error) ∨
    ∃ settings output, s.settings.result = .ok settings ∧
      (block settings).steps.result = .ok output ∧ (command.run s block).ending = .success := by
  cases hsettings : s.settings.result with
  | error fault => exact .inl ⟨fault, rfl, by rw [run_of_settings_eq_error hsettings]⟩
  | ok settings =>
    -- There are settings, so the block decides.
    refine .inr ?_
    cases hsteps : (block settings).steps.result with
    | error error =>
      exact .inl ⟨settings, error, rfl, hsteps, by rw [run_of_steps_eq_error hsettings hsteps]⟩
    | ok output =>
      exact .inr ⟨settings, output, rfl, hsteps, by rw [run_of_steps_eq_ok hsettings hsteps]⟩

theorem error?_run_eq_some_iff :
    (command.run s block).ending.error? = some error ↔
      (∃ fault, s.settings.result = .error fault ∧ error = .step (.settings fault)) ∨
        ∃ settings, s.settings.result = .ok settings ∧
          (block settings).steps.result = .error error := by
  constructor
  · intro h
    rcases run_cases command s block with ⟨fault, hsettings, hending⟩ |
      ⟨settings, cause, hsettings, hsteps, hending⟩ | ⟨settings, output, -, -, hending⟩
    · rw [hending] at h
      cases h
      exact .inl ⟨fault, hsettings, rfl⟩
    · rw [hending, error?_ending] at h
      cases h
      exact .inr ⟨settings, hsettings, hsteps⟩
    -- A run that ends well has no error.
    · rw [hending] at h
      cases h
  · rintro (⟨fault, hsettings, rfl⟩ | ⟨settings, hsettings, hsteps⟩)
    · rw [run_of_settings_eq_error hsettings]
      rfl
    · rw [run_of_steps_eq_error hsettings hsteps]
      exact error?_ending command error

end Command

theorem reportStep_eq_ok_iff {steps : Logged Failure α} {value : α} :
    (reportStep steps).result = .ok value ↔ steps.result = .ok value :=
  Logged.mapError_eq_ok_iff

theorem reportStep_eq_error_iff {steps : Logged Failure α} {error : RunError} :
    (reportStep steps).result = .error error ↔
      ∃ failure, steps.result = .error failure ∧ .step failure = error :=
  Logged.mapError_eq_error_iff

/-! ## Writing out at the end of a block -/

namespace Surroundings

variable {ε : Type} {make : Batch → Except ε String} {text : String}

theorem echo_eq_error_iff {error : RunError} :
    (s.echo file make text).result = .error error ↔
      ∃ fault, Text.encode plain text (s.markedText? file make) = .error fault ∧
        .encoding fault = error := by
  rw [echo, Logged.mapError_eq_error_iff, Logged.result_ofExcept]

end Surroundings

/-! ## Loading at the start of a block -/

namespace Surroundings

/-- The settings and the batch of a file can be loaded. -/
structure Loads (s : Surroundings) (file : FilePath) (settings : Settings) (batch : Batch) :
    Prop where
  settings_eq : (Settings.load s.tree s.environment workingDirectory).result = .ok settings
  batch_eq : (Batch.load s.tree file).result = .ok batch

/-- The settings or the batch of a file cannot be loaded. -/
inductive FailsToLoad (s : Surroundings) (file : FilePath) : Failure → Prop where
  | settings {fault : Settings.Fault}
      (h : (Settings.load s.tree s.environment workingDirectory).result = .error fault) :
      FailsToLoad s file (.settings fault)
  | file {settings : Settings} {fault : Document.FileFault}
      (hsettings : (Settings.load s.tree s.environment workingDirectory).result = .ok settings)
      (h : (Batch.load s.tree file).result = .error fault) : FailsToLoad s file (.file fault)

theorem batch_eq_ok_iff :
    (s.batch file).result = .ok batch ↔ (Batch.load s.tree file).result = .ok batch :=
  Logged.mapError_eq_ok_iff

/-- The first step of every block. -/
theorem batch_bind_eq_ok_iff {next : Batch → Logged Failure α} {value : α} :
    (s.batch file >>= next).result = .ok value ↔
      ∃ batch, (Batch.load s.tree file).result = .ok batch ∧ (next batch).result = .ok value := by
  rw [Logged.bind_eq_ok_iff]
  exact exists_congr fun batch => and_congr_left fun _ => batch_eq_ok_iff

theorem batch_bind_eq_error_iff {next : Batch → Logged Failure α} :
    (s.batch file >>= next).result = .error failure ↔
      (∃ fault, (Batch.load s.tree file).result = .error fault ∧ .file fault = failure) ∨
        ∃ batch, (Batch.load s.tree file).result = .ok batch ∧
          (next batch).result = .error failure := by
  rw [Logged.bind_eq_error_iff]
  refine or_congr Logged.mapError_eq_error_iff (exists_congr fun batch => ?_)
  exact and_congr_left fun _ => batch_eq_ok_iff

/-- A run whose block starts with its batch fails to load, or fails with what was loaded. -/
theorem error?_run_eq_some_iff {command : Command} {block : Settings → Block}
    {fails : Settings → Batch → RunError → Prop} {error : RunError}
    (hblock : ∀ settings error, (block settings).steps.result = .error error ↔
      (∃ fault, (Batch.load s.tree file).result = .error fault ∧ error = .step (.file fault)) ∨
        ∃ batch, (Batch.load s.tree file).result = .ok batch ∧ fails settings batch error) :
    (command.run s block).ending.error? = some error ↔
      (∃ failure, s.FailsToLoad file failure ∧ error = .step failure) ∨
        ∃ settings batch, s.Loads file settings batch ∧ fails settings batch error := by
  rw [Command.error?_run_eq_some_iff]
  constructor
  -- Settings or file, file or what follows: each failure belongs to one of the stages.
  · rintro (⟨fault, h, rfl⟩ | ⟨settings, hsettings, h⟩)
    · exact .inl ⟨_, .settings h, rfl⟩
    · rcases (hblock settings error).mp h with ⟨fault, hbatch, rfl⟩ | ⟨batch, hbatch, h⟩
      · exact .inl ⟨_, .file hsettings hbatch, rfl⟩
      · exact .inr ⟨settings, batch, ⟨hsettings, hbatch⟩, h⟩
  · rintro (⟨failure, h, rfl⟩ | ⟨settings, batch, hload, h⟩)
    · cases h with
      | settings h => exact .inl ⟨_, h, rfl⟩
      | file hsettings h =>
        exact .inr ⟨_, hsettings, (hblock _ _).mpr (.inl ⟨_, h, rfl⟩)⟩
    · exact .inr ⟨settings, hload.settings_eq,
        (hblock _ _).mpr (.inr ⟨batch, hload.batch_eq, h⟩)⟩

end Surroundings

/-! ## A place with one file -/

/-- A path that is not refused as it stands leads where its names lead. -/
theorem place_eq_walk {tree : FileTree} {path : FilePath} (hnul : '\x00' ∉ path.render.toList)
    (hsize : path.render.utf8ByteSize ≤ FilePath.maxSize) :
    tree.place path = tree.walk ⟨path.root, []⟩ path.names := by
  have hcontains : path.render.contains '\x00' = false := by simpa using hnul
  unfold FileTree.place
  dsimp only
  rw [hcontains, if_neg Bool.false_ne_true, if_neg (Nat.not_lt_of_le hsize)]

namespace Surroundings

/-- The path of the file `a.json`. -/
def jsonPath : FilePath := ⟨"", ["a.json"]⟩

/-- The file `a.json` and no other. -/
def besideJson (content : List UInt8) (environment : Environment) (toolkit : SqlToolkit) :
    Surroundings :=
  ⟨[(jsonPath, .file content)], environment, toolkit⟩

variable {content : List UInt8} {environment : Environment} {toolkit : SqlToolkit}

theorem settings_besideJson :
    (Settings.load (besideJson content environment toolkit).tree environment
      workingDirectory).result = Settings.ofEntries (Settings.override environment []) := by
  -- Neither of the two files is in a tree that has only the document.
  let tree : FileTree := [(jsonPath, .file content)]
  have hproject : tree.find? ⟨"", ["pyproject.toml"]⟩ = .ok none := by
    rw [FileTree.find?, place_eq_walk (by decide) (by decide)]
    rfl
  have hown : tree.find? ⟨"", ["migrast.toml"]⟩ = .ok none := by
    rw [FileTree.find?, place_eq_walk (by decide) (by decide)]
    rfl
  refine Settings.load_of_absent environment ?_
  intro file _
  cases file with
  | project => exact hproject
  | own => exact hown

theorem read_besideJson :
    (besideJson content environment toolkit).tree.read jsonPath = .ok content := by
  show FileTree.read [(jsonPath, .file content)] jsonPath = .ok content
  rw [FileTree.read, place_eq_walk (by decide) (by decide)]
  rfl

theorem batch_besideJson {chars : List Char} {value : Value}
    (htext : Text.ofUtf8 content = .ok chars)
    (hvalue : Json.read (String.ofList (Text.unifyNewlines chars)) = .ok value)
    (hbatch : Batch.ofValue value = .ok batch) :
    (Batch.load (besideJson content environment toolkit).tree jsonPath).result = .ok batch :=
  Batch.load_eq_ok (Document.readFile_of_json rfl read_besideJson htext hvalue) hbatch

end Surroundings

/-! ## Checking statements -/

/-- The toolkit reads every statement of the batch in the dialect of the checker. -/
def Passes (toolkit : SqlToolkit) (checker : Checker) (batch : Batch) : Prop :=
  ∀ statement ∈ batch, toolkit.check checker.dialect statement.render = .ok ()

/-- The first statement of the batch that the toolkit does not read, and what it fails with. -/
def FailsFirstAt (toolkit : SqlToolkit) (checker : Checker) (batch : Batch) :
    Statement → SqlToolkit.Failure → Prop :=
  FirstFailure (fun statement => toolkit.check checker.dialect statement.render) batch

variable {toolkit : SqlToolkit} {checker : Checker}

theorem checkAll_eq_ok_iff :
    (reportCheck (checker.validateAll toolkit (batch.map Statement.render))).result = .ok () ↔
      Passes toolkit checker batch := by
  rw [reportCheck, Logged.mapError_eq_ok_iff, Checker.validateAll_eq_ok_iff, List.forall_mem_map]
  exact Iff.rfl

theorem checkAll_eq_error_iff :
    (reportCheck (checker.validateAll toolkit (batch.map Statement.render))).result =
        .error failure ↔
      ∃ statement cause, FailsFirstAt toolkit checker batch statement cause ∧
        failure = .check (checker.faultAt statement.render cause) := by
  rw [reportCheck, Logged.mapError_eq_error_iff]
  constructor
  -- The fault of a text is the fault of the statement it was rendered from.
  · rintro ⟨fault, h, rfl⟩
    obtain ⟨sql, cause, hsql, rfl⟩ := Checker.validateAll_eq_error_iff.mp h
    obtain ⟨statement, rfl, hfirst⟩ := firstFailure_map_iff.mp hsql
    exact ⟨statement, cause, hfirst, rfl⟩
  · rintro ⟨statement, cause, hfirst, rfl⟩
    have hsql := firstFailure_map_iff.mpr ⟨statement, rfl, hfirst⟩
    exact ⟨_, Checker.validateAll_eq_error_iff.mpr ⟨_, cause, hsql, rfl⟩, rfl⟩

/-- There is no checker for the dialect, or the first statement that the toolkit does not read is
this one. Unless a check is asked for, only the dialect counts. -/
inductive FailsToCheck (toolkit : SqlToolkit) (dialect : String) (asked : Bool) (batch : Batch) :
    Failure → Prop where
  | dialect {fault : Checker.Fault}
      (h : Checker.ofDialect dialect toolkit.dialects = .error fault) :
      FailsToCheck toolkit dialect asked batch (.check fault)
  | statement {checker : Checker} {statement : Statement} {cause : SqlToolkit.Failure}
      (hasked : asked = true) (hchecker : Checker.ofDialect dialect toolkit.dialects = .ok checker)
      (h : FailsFirstAt toolkit checker batch statement cause) :
      FailsToCheck toolkit dialect asked batch
        (.check (checker.faultAt statement.render cause))

/-- The steps that a run takes with a checker. -/
def checking (toolkit : SqlToolkit) (dialect : String) (asked : Bool) (batch : Batch)
    (next : Checker → Logged Failure α) : Logged Failure α := do
  let checker ← reportCheck (Logged.ofExcept (Checker.ofDialect dialect toolkit.dialects))
  if asked then
    reportCheck (checker.validateAll toolkit (batch.map Statement.render))
  next checker

variable {dialect : String} {asked : Bool} {next : Checker → Logged Failure α}

theorem checker_eq_ok_iff :
    (reportCheck (Logged.ofExcept (Checker.ofDialect dialect toolkit.dialects))).result =
        .ok checker ↔
      Checker.ofDialect dialect toolkit.dialects = .ok checker :=
  Logged.mapError_eq_ok_iff

theorem checking_eq_ok_iff {value : α} :
    (checking toolkit dialect asked batch next).result = .ok value ↔
      ∃ checker, Checker.ofDialect dialect toolkit.dialects = .ok checker ∧
        (asked = true → Passes toolkit checker batch) ∧ (next checker).result = .ok value := by
  rw [checking, Logged.bind_eq_ok_iff]
  refine exists_congr fun checker => and_congr checker_eq_ok_iff ?_
  -- Without a check only the checker has to be there.
  cases asked with
  | false => exact ⟨fun h => ⟨nofun, h⟩, fun h => h.2⟩
  | true =>
    refine Logged.bind_eq_ok_iff.trans ⟨?_, ?_⟩
    · rintro ⟨_, hchecks, h⟩
      exact ⟨fun _ => checkAll_eq_ok_iff.mp hchecks, h⟩
    · rintro ⟨hpasses, h⟩
      exact ⟨(), checkAll_eq_ok_iff.mpr (hpasses rfl), h⟩

theorem checking_eq_error_iff :
    (checking toolkit dialect asked batch next).result = .error failure ↔
      FailsToCheck toolkit dialect asked batch failure ∨
        ∃ checker, Checker.ofDialect dialect toolkit.dialects = .ok checker ∧
          (asked = true → Passes toolkit checker batch) ∧
            (next checker).result = .error failure := by
  rw [checking, Logged.bind_eq_error_iff]
  constructor
  -- The first thing that can fail is the choice of the dialect.
  · rintro (h | ⟨checker, hchecker, h⟩)
    · obtain ⟨fault, hfault, rfl⟩ := Logged.mapError_eq_error_iff.mp h
      exact .inl (.dialect hfault)
    · rw [checker_eq_ok_iff] at hchecker
      cases asked with
      | false => exact .inr ⟨checker, hchecker, nofun, h⟩
      | true =>
        -- Then a statement, and only then what comes behind the check.
        rcases Logged.bind_eq_error_iff.mp h with h | ⟨_, hchecks, h⟩
        · obtain ⟨statement, cause, hfirst, rfl⟩ := checkAll_eq_error_iff.mp h
          exact .inl (.statement rfl hchecker hfirst)
        · exact .inr ⟨checker, hchecker, fun _ => checkAll_eq_ok_iff.mp hchecks, h⟩
  · rintro (h | ⟨checker, hchecker, hpasses, h⟩)
    · cases h with
      | dialect h => exact .inl (Logged.mapError_eq_error_iff.mpr ⟨_, h, rfl⟩)
      | statement hasked hchecker h =>
        subst hasked
        have hchecks := checkAll_eq_error_iff.mpr ⟨_, _, h, rfl⟩
        exact .inr ⟨_, checker_eq_ok_iff.mpr hchecker, Logged.bind_eq_error_iff.mpr (.inl hchecks)⟩
    · refine .inr ⟨checker, checker_eq_ok_iff.mpr hchecker, ?_⟩
      cases asked with
      | false => exact h
      | true =>
        have hchecks := checkAll_eq_ok_iff.mpr (hpasses rfl)
        exact Logged.bind_eq_error_iff.mpr (.inr ⟨(), hchecks, h⟩)

/-! ## What the commands are made of -/

variable {options : RenderOptions}

theorem check_eq (s : Surroundings) (file : FilePath) (dialect : Option String)
    (settings : Settings) :
    check s file dialect settings = s.batch file >>= fun batch =>
      checking s.toolkit (dialect.getD settings.dialect) true batch fun checker =>
        return validNote batch checker := rfl

/-- Does rendering check the statements? -/
def RenderOptions.isChecked (options : RenderOptions) (settings : Settings) : Bool :=
  options.validate || settings.validate

/-- Does rendering need a checker? -/
def RenderOptions.needsChecker (options : RenderOptions) (settings : Settings) : Bool :=
  options.isChecked settings || options.target.isSome

theorem renderPlan_eq (s : Surroundings) (file : FilePath) (options : RenderOptions)
    (settings : Settings) :
    renderPlan s file options settings = s.batch file >>= fun batch =>
      if options.needsChecker settings then
        checking s.toolkit (options.dialect.getD settings.dialect) (options.isChecked settings)
          batch fun checker =>
            return ⟨batch, rendererFor s.toolkit checker options.target, settings.terminator⟩
      else return ⟨batch, fun statement => return statement.render, settings.terminator⟩ := rfl

/-- What is planned before a script is written. -/
inductive Surroundings.Plans (s : Surroundings) (file : FilePath) (options : RenderOptions) :
    RenderPlan → Prop where
  /-- Neither a check nor a target dialect is asked for. -/
  | plain {settings : Settings} {batch : Batch} (hload : s.Loads file settings batch)
      (hplain : options.needsChecker settings = false) :
      Plans s file options
        ⟨batch, fun statement => return statement.render, settings.terminator⟩
  | checked {settings : Settings} {batch : Batch} {checker : Checker}
      (hload : s.Loads file settings batch) (hneeded : options.needsChecker settings = true)
      (hchecker : Checker.ofDialect (options.dialect.getD settings.dialect) s.toolkit.dialects =
        .ok checker)
      (hpasses : options.isChecked settings = true → Passes s.toolkit checker batch) :
      Plans s file options
        ⟨batch, rendererFor s.toolkit checker options.target, settings.terminator⟩

theorem Surroundings.Plans.exists_loads {plan : RenderPlan} (h : s.Plans file options plan) :
    ∃ settings, s.Loads file settings plan.batch ∧ plan.terminator = settings.terminator := by
  cases h with
  | plain hload _ => exact ⟨_, hload, rfl⟩
  | checked hload _ _ _ => exact ⟨_, hload, rfl⟩

theorem renderPlan_eq_ok_iff {plan : RenderPlan} (hsettings : s.settings.result = .ok settings) :
    (renderPlan s file options settings).result = .ok plan ↔ s.Plans file options plan := by
  rw [renderPlan_eq, Surroundings.batch_bind_eq_ok_iff]
  constructor
  · rintro ⟨batch, hbatch, h⟩
    cases hneeded : options.needsChecker settings with
    | false =>
      rw [hneeded] at h
      cases h
      exact .plain ⟨hsettings, hbatch⟩ hneeded
    | true =>
      -- Where a checker is needed, the plan is what the checking goes on with.
      rw [hneeded, if_pos rfl] at h
      obtain ⟨checker, hchecker, hpasses, h⟩ := checking_eq_ok_iff.mp h
      cases h
      exact .checked ⟨hsettings, hbatch⟩ hneeded hchecker hpasses
  · intro h
    -- The plan was made with settings of its own, but there are only these.
    cases h with
    | plain hload hplain =>
      cases hsettings.symm.trans hload.settings_eq
      exact ⟨_, hload.batch_eq, by rw [hplain]; rfl⟩
    | checked hload hneeded hchecker hpasses =>
      cases hsettings.symm.trans hload.settings_eq
      refine ⟨_, hload.batch_eq, ?_⟩
      rw [hneeded, if_pos rfl]
      exact checking_eq_ok_iff.mpr ⟨_, hchecker, hpasses, rfl⟩

theorem renderPlan_eq_error_iff :
    (renderPlan s file options settings).result = .error failure ↔
      (∃ fault, (Batch.load s.tree file).result = .error fault ∧ .file fault = failure) ∨
        ∃ batch, (Batch.load s.tree file).result = .ok batch ∧
          options.needsChecker settings = true ∧
          FailsToCheck s.toolkit (options.dialect.getD settings.dialect)
            (options.isChecked settings) batch failure := by
  rw [renderPlan_eq, Surroundings.batch_bind_eq_error_iff]
  refine or_congr_right (exists_congr fun batch => and_congr_right fun _ => ?_)
  -- A plan that needs no checker cannot fail, and the checker's plan fails only by its checks.
  cases options.needsChecker settings with
  | false => exact ⟨nofun, nofun⟩
  | true =>
    rw [if_pos rfl, checking_eq_error_iff]
    constructor
    · rintro (h | ⟨checker, -, -, h⟩)
      · exact ⟨rfl, h⟩
      · cases h
    · rintro ⟨-, h⟩
      exact .inl h

end CommandLine

end SchemaMigration
