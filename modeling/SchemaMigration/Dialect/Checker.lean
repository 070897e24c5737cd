import SchemaMigration.Dialect.Name
import SchemaMigration.Dialect.Selection
import SchemaMigration.Log
import SchemaMigration.Settings.Basic

/-!
# Checking and converting SQL text

Reading SQL and writing it in another dialect is left to a toolkit, of which nothing is assumed: it
may know any dialects, and for each dialect and text it may accept or fail. A checker is for one
selection of a dialect, which has to select one that the toolkit knows.
-/

namespace SchemaMigration

/-- How a toolkit fails. -/
inductive SqlToolkit.Failure where
  /-- It rejects the SQL text. -/
  | rejected (reason : String)
  /-- It fails for another reason, such as a value that it was given. -/
  | failed (reason : String)
  /-- It breaks down, in a way that its callers do not expect. -/
  | crashed (reason : String)
  deriving DecidableEq

/-- What a toolkit can do with SQL text. -/
structure SqlToolkit where
  /-- Reads a text in a dialect. -/
  check : (dialect sql : String) → Except SqlToolkit.Failure Unit
  /-- Writes a text that was read in a dialect in another one. -/
  convert : (dialect target sql : String) → Except SqlToolkit.Failure String
  /-- The dialects that it knows. -/
  dialects : List String := Dialect.commonNames

/-- A rendered text that is no SQL of a dialect. -/
structure Rejection where
  sql : String
  dialect : String
  reason : String
  deriving DecidableEq

/-- The text that reports a rejection. -/
def Rejection.message (r : Rejection) : String :=
  "Rendered SQL is not valid " ++ r.dialect ++ ": " ++ r.reason ++ " [" ++ r.sql ++ "]"

/-- A checker for one dialect. -/
structure Checker where
  dialect : String
  deriving DecidableEq

namespace Checker

/-- Why a text is not checked or converted. -/
inductive Fault where
  | rejected (rejection : Rejection)
  /-- A text does not select a dialect. -/
  | badDialect (fault : Dialect.Fault)
  /-- The toolkit failed for a reason that does not lie in the text. -/
  | failed (reason : String)
  /-- The toolkit broke down. -/
  | crashed (reason : String)
  deriving DecidableEq

/-- The text that reports a fault. -/
def Fault.message : Fault → String
  | rejected rejection => rejection.message
  | badDialect fault => fault.message
  | failed reason => reason
  | crashed reason => reason

/-- The class of a fault. -/
def Fault.errorClass : Fault → ErrorClass
  | rejected _ => .renderValidationError
  | badDialect fault => if fault.isWrongKind then .attributeError else .valueError
  | failed _ => .valueError
  | crashed _ => .other

/-- The name under which checkers log. -/
def logSource : String := "DialectChecker"

/-- The checker for one of the known dialects; an empty text stands for the default one. -/
def ofDialect (text : String) (known : List String := Dialect.commonNames) :
    Except Fault Checker := do
  let dialect := if text = "" then defaultDialect else text
  (Dialect.check known dialect).mapError .badDialect
  return ⟨dialect⟩

/-- The rejection of a text for a reason. -/
def reject (checker : Checker) (sql reason : String) : Fault :=
  .rejected ⟨sql, checker.dialect, reason⟩

/-- The text itself, if the toolkit can read it. -/
def validate (toolkit : SqlToolkit) (checker : Checker) (sql : String) : Logged Fault String :=
  match toolkit.check checker.dialect sql with
  | .ok () => do
    Logged.log .debug logSource ("Validated " ++ checker.dialect ++ " SQL: " ++ sql)
    return sql
  | .error (.rejected reason) => Logged.throw (checker.reject sql reason)
  | .error (.failed reason) => Logged.throw (.failed reason)
  | .error (.crashed reason) => Logged.throw (.crashed reason)

/-- A failure of the toolkit at a text, counted as a rejection unless the toolkit broke down. -/
def rejectFailed {α : Type} (checker : Checker) (sql : String)
    (result : Except SqlToolkit.Failure α) : Except Fault α :=
  result.mapError fun
    | .rejected reason => checker.reject sql reason
    | .failed reason => checker.reject sql reason
    | .crashed reason => .crashed reason

/-- The text in a target dialect, which has to be selected. Every failure counts as a rejection but
for a selection with a value of the wrong kind and for a toolkit that breaks down. -/
def converted (toolkit : SqlToolkit) (checker : Checker) (target sql : String) :
    Except Fault String := do
  checker.rejectFailed sql (toolkit.check checker.dialect sql)
  (Dialect.check toolkit.dialects target).mapError fun fault =>
    if fault.isWrongKind then .badDialect fault else checker.reject sql fault.message
  checker.rejectFailed sql (toolkit.convert checker.dialect target sql)

/-- What is logged when a text was converted to another dialect. -/
def conversionNote (checker : Checker) (target : String) : String :=
  "Converted SQL from " ++ checker.dialect ++ " to " ++ target ++
    ". Please review the converted statement for correctness."

/-- The text in a target dialect. -/
def convert (toolkit : SqlToolkit) (checker : Checker) (target sql : String) :
    Logged Fault String := do
  let text ← Logged.ofExcept (checker.converted toolkit target sql)
  if target ≠ checker.dialect then
    Logged.log .debug logSource (checker.conversionNote target)
  return text

/-- Validates several texts, in order. -/
def validateAll (toolkit : SqlToolkit) (checker : Checker) : List String → Logged Fault Unit
  | [] => return ()
  | sql :: rest => do
    let _ ← checker.validate toolkit sql
    validateAll toolkit checker rest

end Checker

end SchemaMigration
