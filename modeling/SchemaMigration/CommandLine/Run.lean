import SchemaMigration.Batch.EdgeDocument
import SchemaMigration.Batch.ScriptFile
import SchemaMigration.CommandLine.Echo
import SchemaMigration.CommandLine.Request
import SchemaMigration.Dialect.Checker
import SchemaMigration.Document.File
import SchemaMigration.Settings.Load
import SchemaMigration.Text.Encoding

/-!
# Running the commands

A run takes a tree of files and leaves one behind, and nothing is written out before it is known
that the run succeeds. It loads the settings and then goes through the block of its command. Errors
in the block are handled if the command names their class; other errors, and any that come before
the block, leave the command.
-/

namespace SchemaMigration.CommandLine

/-! ### Errors -/

/-- Why a step of a run fails. -/
inductive Failure where
  | settings (fault : Settings.Fault)
  | file (fault : Document.FileFault)
  | edges (error : DependencyError)
  | check (fault : Checker.Fault)
  | system (error : FileError)

namespace Failure

/-- The text that comes with a failure. -/
def message : Failure → String
  | settings fault => fault.message
  | file fault => fault.message
  | edges error => error.message
  | check fault => fault.message
  | system error => error.message

/-- The class of the error that a failure is. -/
def errorClass : Failure → ErrorClass
  | settings fault => fault.errorClass
  | file fault => fault.errorClass
  | edges _ => .statementDependencyError
  | check fault => fault.errorClass
  | system error => error.errorClass

end Failure

/-- The error with which a run ends. -/
inductive RunError where
  /-- A step of the run fails. -/
  | step (failure : Failure)
  /-- What should be written out cannot be encoded. -/
  | encoding (fault : Text.EncodingFault)

namespace RunError

/-- The error of a run whose script is not written to its file. -/
def ofWrite : WriteFault Checker.Fault Text.EncodingFault → RunError
  | .unrendered fault => step (.check fault)
  | .refused error => step (.system error)
  | .unencoded fault => encoding fault

/-- The text that comes with an error. -/
def message : RunError → String
  | step failure => failure.message
  | encoding fault => fault.message

/-- The class of an error. -/
def errorClass : RunError → ErrorClass
  | step failure => failure.errorClass
  | encoding _ => .unicodeEncodeError

end RunError

/-- The classes of the errors that are handled in the block of a command. -/
def Command.handled : Command → List ErrorClass
  | render => [.migrastError, .valueError]
  | deps => [.migrastError, .valueError]
  | validate => [.migrastError, .valueError]

/-- Is an error handled that comes up in the block of a command? -/
def Command.handles (command : Command) (error : RunError) : Bool :=
  command.handled.any error.errorClass.isA

/-! ### Runs -/

/-- How a run ends. -/
inductive Ending where
  | success
  /-- The error is handled, which reports it. -/
  | reported (error : RunError)
  /-- The error leaves the command. -/
  | escaped (error : RunError)

/-- How a run ends with an error that comes up in the block of its command. -/
def Command.ending (command : Command) (error : RunError) : Ending :=
  if command.handles error then .reported error else .escaped error

/-- What a run leaves behind: the files, what it writes out and what it logs. -/
structure Outcome where
  tree : FileTree
  output : String
  records : List LogRecord
  ending : Ending

/-- What the block of a command leaves behind: the files, and what it writes out or fails with. -/
structure Block where
  tree : FileTree
  steps : Logged RunError String

/-- Where a run takes place. -/
structure Surroundings where
  tree : FileTree
  environment : Environment
  toolkit : SqlToolkit

/-- The working directory. -/
def workingDirectory : FilePath := ⟨"", []⟩

namespace Surroundings

/-- The settings of a run. -/
def settings (s : Surroundings) : Logged Settings.Fault Settings :=
  Settings.load s.tree s.environment workingDirectory

/-- The batch of a file. -/
def batch (s : Surroundings) (file : FilePath) : Logged Failure Batch :=
  (Batch.load s.tree file).mapError .file

/-- The text that is made of the batch of a file, with the halves of surrogate pairs marked. -/
def markedText? {ε : Type} (s : Surroundings) (file : FilePath) (make : Batch → Except ε String) :
    Option String :=
  (Batch.loadMarked? s.tree file).bind fun batch => (make batch).toOption

/-- Writes out a text that was made of the batch of a file. -/
def echo {ε : Type} (s : Surroundings) (file : FilePath) (make : Batch → Except ε String)
    (text : String) : Logged RunError String :=
  (Logged.ofExcept (Text.encode plain text (s.markedText? file make))).mapError .encoding

end Surroundings

/-- The steps of a block that can fail. -/
def reportStep {α : Type} (steps : Logged Failure α) : Logged RunError α :=
  steps.mapError .step

/-- A run of a command: the settings are loaded, and the block of the command goes on from there. -/
def Command.run (command : Command) (s : Surroundings) (block : Settings → Block) : Outcome :=
  let setup := s.settings
  match setup.result with
  | .error fault => ⟨s.tree, "", setup.records, .escaped (.step (.settings fault))⟩
  | .ok settings =>
    let ⟨tree, steps⟩ := block settings
    let records := setup.records ++ steps.records
    match steps.result with
    | .ok output => ⟨tree, output, records, .success⟩
    | .error error => ⟨tree, "", records, command.ending error⟩

/-- A fault of a checker as a failure of the run. -/
def reportCheck {α : Type} (check : Logged Checker.Fault α) : Logged Failure α :=
  check.mapError .check

/-! ### Checking -/

/-- What is written out when all statements are SQL. -/
def validNote (batch : Batch) (checker : Checker) : String :=
  s!"✅ {batch.length} statements are valid {checker.dialect} SQL\n"

/-- Checks the statements of a batch. -/
def check (s : Surroundings) (file : FilePath) (dialect : Option String) (settings : Settings) :
    Logged Failure String := do
  let batch ← s.batch file
  let dialect := dialect.getD settings.dialect
  let checker ← reportCheck (Logged.ofExcept (Checker.ofDialect dialect s.toolkit.dialects))
  reportCheck (checker.validateAll s.toolkit (batch.map Statement.render))
  return validNote batch checker

/-- Checks that the statements of a batch are SQL. -/
def validate (s : Surroundings) (file : FilePath) (dialect : Option String) : Outcome :=
  Command.validate.run s fun settings => ⟨s.tree, reportStep (check s file dialect settings)⟩

/-! ### Edges -/

/-- The dependency edges of a batch as a document. -/
def edgeText (format : OutputFormat) (batch : Batch) : Logged DependencyError String := do
  let edges ← batch.edges
  return format.render (edgeDocument edges) ++ "\n"

/-- Lists the dependency edges of a batch. Only JSON has halves of surrogate pairs as they are. YAML
writes them by their codes, so that it can be encoded; here they are replaced in it. -/
def listEdges (s : Surroundings) (file : FilePath) (format : OutputFormat) :
    Logged RunError String := do
  let batch ← reportStep (s.batch file)
  let text ← reportStep ((edgeText format batch).mapError .edges)
  match format with
  | .json => s.echo file (fun batch => (edgeText .json batch).result) text
  | .yaml => return text

/-- Shows the dependency edges of a batch. -/
def deps (s : Surroundings) (file : FilePath) (format : Option OutputFormat) : Outcome :=
  Command.deps.run s fun settings =>
    ⟨s.tree, listEdges s file (format.getD settings.outputFormat)⟩

/-! ### Scripts -/

/-- What is known before a script is written: the batch, how its statements are rendered, and what
ends them. -/
structure RenderPlan where
  batch : Batch
  renderer : Statement → Logged Checker.Fault String
  terminator : String

/-- The script that is planned, of the batch or of another one. -/
def RenderPlan.scriptOf (plan : RenderPlan) (batch : Batch) : Logged Checker.Fault String :=
  batch.scriptWith plan.renderer plan.terminator

/-- How statements are rendered: as they are, or converted to a target dialect. -/
def rendererFor (toolkit : SqlToolkit) (checker : Checker) (target : Option String)
    (statement : Statement) : Logged Checker.Fault String :=
  match target with
  | none => return statement.render
  | some target => checker.convert toolkit target statement.render

/-- Loads a batch and checks it if that is asked for. A checker is needed only to check or to
convert. -/
def renderPlan (s : Surroundings) (file : FilePath) (options : RenderOptions)
    (settings : Settings) : Logged Failure RenderPlan := do
  let batch ← s.batch file
  let isChecked := options.validate || settings.validate
  if isChecked || options.target.isSome then
    let dialect := options.dialect.getD settings.dialect
    let checker ← reportCheck (Logged.ofExcept (Checker.ofDialect dialect s.toolkit.dialects))
    if isChecked then
      reportCheck (checker.validateAll s.toolkit (batch.map Statement.render))
    return ⟨batch, rendererFor s.toolkit checker options.target, settings.terminator⟩
  else return ⟨batch, fun statement => return statement.render, settings.terminator⟩

/-- What is written out when a script was written to a file. -/
def wroteNote (batch : Batch) (path : FilePath) : String :=
  s!"✅ Wrote {batch.length} statements to {path.render}\n"

/-- The script of a plan, if it can be encoded. In a file it has its escape sequences. -/
def RenderPlan.encodeToFile (plan : RenderPlan) (s : Surroundings) (file : FilePath)
    (script : String) : Except Text.EncodingFault String :=
  Text.encode id script (s.markedText? file fun batch => (plan.scriptOf batch).result)

/-- Renders a script to a file. -/
def renderToFile (s : Surroundings) (file : FilePath) (plan : Logged Failure RenderPlan)
    (path : FilePath) : Block :=
  match plan.result with
  | .error failure => ⟨s.tree, ⟨plan.records, .error (.step failure)⟩⟩
  | .ok found =>
    let (tree, written) := found.batch.writeEncoded (found.encodeToFile s file) s.tree path
      found.renderer found.terminator
    let records := plan.records ++ written.records
    match written.result with
    | .ok () => ⟨tree, ⟨records, .ok (wroteNote found.batch path)⟩⟩
    | .error fault => ⟨tree, ⟨records, .error (.ofWrite fault)⟩⟩

/-- Renders a script to the output. -/
def renderToOutput (s : Surroundings) (file : FilePath) (plan : Logged Failure RenderPlan) :
    Logged RunError String := do
  let plan ← reportStep plan
  let script ← reportStep (reportCheck (plan.scriptOf plan.batch))
  s.echo file (fun batch => (plan.scriptOf batch).result) script

/-- Renders a script to where it should go. -/
def renderBlock (s : Surroundings) (file : FilePath) (options : RenderOptions)
    (settings : Settings) : Block :=
  let plan := renderPlan s file options settings
  match options.output with
  | some path => renderToFile s file plan path
  | none => ⟨s.tree, renderToOutput s file plan⟩

/-- Renders the script of a batch. -/
def render (s : Surroundings) (file : FilePath) (options : RenderOptions) : Outcome :=
  Command.render.run s (renderBlock s file options)

/-! ### Requests -/

/-- What a request leads to; help is no run. -/
def Request.run (s : Surroundings) : Request → Option Outcome
  | help => none
  | render file options _ => some (CommandLine.render s file options)
  | deps file format _ => some (CommandLine.deps s file format)
  | validate file dialect _ => some (CommandLine.validate s file dialect)

end SchemaMigration.CommandLine
