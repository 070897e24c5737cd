import SchemaMigration.Document.Statement
import SchemaMigration.Log
import SchemaMigration.Statement.Edges
import SchemaMigration.Statement.Render

/-!
# The dependency edges of a batch

Every statement gets an entry with its place in the batch, its SQL text, what it needs and what it
provides. The first statement with a name that does not resolve ends the extraction, and the error
tells which statement that is.
-/

namespace SchemaMigration

/-- The edges of one statement of a batch. -/
structure StatementEdges where
  index : Nat
  statement : Statement
  sql : String
  requires : List ObjectKey
  provides : List ObjectKey
  deriving DecidableEq

/-- A statement of a batch that names something that does not resolve. -/
structure DependencyError where
  index : Nat
  sql : String
  cause : Identifier.Unresolvable
  deriving DecidableEq

/-- The text that reports the error. -/
def DependencyError.message (error : DependencyError) : String :=
  s!"Statement #{error.index} ({error.sql}): {error.cause.message}"

namespace StatementEdges

/-- The name under which extraction logs. -/
def logSource : String := "migrast.analysis.edges"

/-- The edges of a statement; what it needs is looked at first. -/
def of (index : Nat) (statement : Statement) : Except DependencyError StatementEdges :=
  let edges : Except Identifier.Unresolvable StatementEdges := do
    let requires ← statement.requires
    let provides ← statement.provides
    return ⟨index, statement, statement.render, requires, provides⟩
  edges.mapError fun cause => ⟨index, statement.render, cause⟩

/-- A list of keys as it is logged. -/
def keyList (keys : List ObjectKey) : String :=
  "[" ++ commaList (keys.map ObjectKey.render) ++ "]"

/-- What is logged about a statement. -/
def note (edges : StatementEdges) : String :=
  s!"Statement #{edges.index} depends on {keyList edges.requires}, " ++
    s!"solves {keyList edges.provides}"

end StatementEdges

namespace Batch

/-- The edges of the statements of a batch, counted from the given index. -/
def edgesFrom : Nat → Batch → Logged DependencyError (List StatementEdges)
  | _, [] => return []
  | index, statement :: rest => do
    let edges ← Logged.ofExcept (StatementEdges.of index statement)
    Logged.log .debug StatementEdges.logSource edges.note
    return edges :: (← edgesFrom (index + 1) rest)

/-- The edges of all statements of a batch, in order. -/
def edges (batch : Batch) : Logged DependencyError (List StatementEdges) := do
  let edges ← edgesFrom 0 batch
  Logged.log .info StatementEdges.logSource
    s!"Extracted dependency edges for {edges.length} statements"
  return edges

end Batch

end SchemaMigration
