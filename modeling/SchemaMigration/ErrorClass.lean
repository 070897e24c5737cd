/-!
# Classes of errors

What goes wrong is an error of some class, and whoever handles errors names the classes that it
handles. An error is handled if its class, or one above it, is named.
-/

namespace SchemaMigration

/-- The class of an error. -/
inductive ErrorClass where
  /-- The class above those of the errors about statements. -/
  | migrastError
  | statementLoadError
  | statementDependencyError
  | renderValidationError
  /-- A value of the right kind that does not fit. -/
  | valueError
  | unicodeDecodeError
  | unicodeEncodeError
  /-- A key or a word that a table does not have. -/
  | keyError
  | indexError
  | attributeError
  /-- A value of the wrong kind. -/
  | typeError
  | overflowError
  /-- A refusal of the system. -/
  | osError
  /-- An error that belongs to none of the other classes. -/
  | other
  deriving DecidableEq

namespace ErrorClass

/-- The class above a class. -/
def parent? : ErrorClass → Option ErrorClass
  | statementLoadError => some migrastError
  | statementDependencyError => some migrastError
  | renderValidationError => some migrastError
  | unicodeDecodeError => some valueError
  | unicodeEncodeError => some valueError
  | _ => none

/-- Is every error of the first class one of the second? -/
def isA (c above : ErrorClass) : Bool := c = above || c.parent? = some above

end ErrorClass

end SchemaMigration
