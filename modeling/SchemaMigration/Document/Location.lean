/-!
# Places in documents

A place is a path of steps from the root of a document. Its text is appended to the name of the
document, and that is how an error tells where it lies.
-/

namespace SchemaMigration.Document

/-- One step into a document. -/
inductive Step where
  /-- To the value of a key of a mapping. -/
  | key (name : String)
  /-- To an item of a list. -/
  | index (i : Nat)
  /-- From a batch to one of its statements. -/
  | statement (i : Nat)
  deriving DecidableEq

/-- A place in a document, as the steps that lead to it. -/
abbrev Path := List Step

/-- The text of a step. -/
def Step.render : Step → String
  | key name => "." ++ name
  | index i => "[" ++ toString i ++ "]"
  | statement i => ":statements[" ++ toString i ++ "]"

/-- The text of a path. -/
def Path.render (path : Path) : String :=
  String.join (path.map Step.render)

end SchemaMigration.Document
