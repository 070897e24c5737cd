import SchemaMigration.ObjectKey
import SchemaMigration.Statement.Render

/-!
# Nodes

All that statements are built from, statements and keys included.
-/

namespace SchemaMigration

/-- A node. -/
inductive Node where
  | identifier (i : Identifier)
  | key (k : ObjectKey)
  | expr (e : Expr)
  | tableRef (t : TableRef)
  | conflict (c : ConflictClause)
  | statement (s : Statement)
  deriving DecidableEq

/-! ### Labels -/

/-- The label of an identifier's kind. -/
def Identifier.label : Identifier → String
  | .name _ => "Name"
  | .qualified _ _ => "Selector"

/-- The label of an expression's kind. -/
def Expr.label : Expr → String
  | .literal _ => "Literal"
  | .ident _ => "IdentExpr"
  | .binary _ _ _ => "BinaryExpr"
  | .assign _ _ => "SetExpr"
  | .references _ _ _ _ => "ReferencesExpr"
  | .column _ => "FieldDescriber"
  | .tableBody _ => "TableBodyDescriber"
  | .addColumn _ _ => "AddColumnExpr"
  | .dropColumn _ => "DropColumnExpr"
  | .addConstraint _ _ => "AddConstraintExpr"
  | .renameTo _ => "RenameToExpr"

/-- The label of a statement's kind. -/
def Statement.label : Statement → String
  | .alter _ _ _ => "AlterStmt"
  | .create _ _ _ _ => "CreateStmt"
  | .drop _ _ => "DropStmt"
  | .insert _ _ _ => "InsertStmt"
  | .update _ _ _ => "UpdateStmt"
  | .select _ => "SelectStmt"
  | .withSelect _ _ _ => "WithStmt"

/-- The label of a node's kind. -/
def Node.label : Node → String
  | .identifier i => i.label
  | .key _ => "NamedObject"
  | .expr e => e.label
  | .tableRef _ => "TableDesc"
  | .conflict _ => "OnConflict"
  | .statement s => s.label

/-- The text of a node in SQL. -/
def Node.render : Node → String
  | .identifier i => i.render
  | .key k => k.render
  | .expr e => e.render
  | .tableRef t => t.render
  | .conflict c => c.render
  | .statement s => s.render

end SchemaMigration
