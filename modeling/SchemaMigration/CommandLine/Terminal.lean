import SchemaMigration.CommandLine.Run

/-!
# Replies

What a command line leads to and what it shows: the output of a run, and beside it log lines and the
report of an error that is handled.
-/

namespace SchemaMigration.CommandLine

/-! ### Streams -/

/-- Is a record shown? Without further request the least level is left out. -/
def isShown (verbose : Bool) (record : LogRecord) : Bool :=
  verbose || LogLevel.info.rank ≤ record.level.rank

/-- The lines of the records that are shown. -/
def logLines (verbose : Bool) (records : List LogRecord) : String :=
  String.join ((records.filter (isShown verbose)).map fun record => record.render ++ "\n")

/-- The line that reports an error. -/
def RunError.report (error : RunError) : String := plain ("Error: " ++ error.message) ++ "\n"

namespace Ending

/-- What is written beside the output because of how a run ends. -/
def report : Ending → String
  | reported error => error.report
  | _ => ""

/-- The code with which a run ends. -/
def code : Ending → Nat
  | success => 0
  | _ => 1

/-- The failure that leaves the command, if there is one. -/
def escape? : Ending → Option Failure
  | escaped (.step failure) => some failure
  | _ => none

end Ending

/-- What a run writes to its output. -/
def Outcome.shown (outcome : Outcome) : String := plain outcome.output

/-- What a run writes beside its output: log lines, and a report if it fails. -/
def Outcome.remarks (verbose : Bool) (outcome : Outcome) : String :=
  logLines verbose outcome.records ++ outcome.ending.report

/-! ### Replies -/

/-- The text that is shown when help is asked for. -/
def helpText : String :=
  "Usage: migrast COMMAND [OPTIONS] FILE\n\n" ++
  "Render migration statements and show their dependency edges.\n\n" ++
  "  render    [-d DIALECT] [--validate] [-o OUTPUT] [-t DIALECT] [-v]\n" ++
  "  deps      [-f json|yaml] [-v]\n" ++
  "  validate  [-d DIALECT] [-v]\n"

/-- What a command line leads to. -/
inductive Reply where
  /-- The command line is not understood. -/
  | refused (fault : UsageFault)
  /-- Help is shown. -/
  | help
  /-- A command is run. -/
  | ran (outcome : Outcome) (verbose : Bool)

/-- What a command line leads to in the given surroundings. -/
def reply (s : Surroundings) (args : List String) : Reply :=
  match Request.ofArgs args with
  | .error fault => .refused fault
  | .ok request =>
    match request.run s with
    | none => .help
    | some outcome => .ran outcome request.isVerbose

namespace Reply

/-- The code with which the program ends. -/
def code : Reply → Nat
  | refused _ => 2
  | help => 0
  | ran outcome _ => outcome.ending.code

/-- What is written to the output. -/
def shown : Reply → String
  | refused _ => ""
  | help => helpText
  | ran outcome _ => outcome.shown

/-- What is written beside the output. -/
def remarks : Reply → String
  | refused fault => "Error: " ++ fault.message ++ "\n"
  | help => ""
  | ran outcome verbose => outcome.remarks verbose

/-- The tree of files that is left behind. -/
def tree (s : Surroundings) : Reply → FileTree
  | ran outcome _ => outcome.tree
  | _ => s.tree

/-- The failure that is not caught, if there is one. -/
def escape? : Reply → Option Failure
  | ran outcome _ => outcome.ending.escape?
  | _ => none

end Reply

end SchemaMigration.CommandLine
