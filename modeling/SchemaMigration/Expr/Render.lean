import SchemaMigration.Expr.Basic
import SchemaMigration.Text.Join

/-!
# The SQL text of expressions

Tokens are joined by single spaces, and tokens that are empty leave no gap (`words`). Members of
lists are joined by commas and all of them are kept (`commaList`).
-/

namespace SchemaMigration

mutual

/-- The SQL text of an expression. -/
def Expr.render : Expr → String
  | .literal text => text
  | .ident identifier => identifier.render
  | .binary left operator right => words [left.render, operator, right.render]
  | .assign field value => field.render ++ " = " ++ value.render
  | .references table column onDelete onUpdate =>
    words ["references", table.render, enclosedUnlessEmpty "(" column ")",
      enclosedUnlessEmpty "on delete " onDelete "", enclosedUnlessEmpty "on update " onUpdate ""]
  | .column definition => definition.render
  | .tableBody columns => "(" ++ commaList (Column.renderList columns) ++ ")"
  | .addColumn definition ifNotExists =>
    words ["add column", if ifNotExists then "if not exists" else "", definition.render]
  | .dropColumn name => "drop column " ++ name.render
  | .addConstraint name body => words ["add constraint", name.render, body.render]
  | .renameTo newName => "rename to " ++ newName.render

/-- The SQL text of a column definition: name, type and constraints. -/
def Column.render : Column → String
  | .define name dataType constraints =>
    words (name.render :: dataType.render :: Expr.renderList constraints)

/-- The SQL texts of several expressions, in order. -/
def Expr.renderList : List Expr → List String
  | [] => []
  | first :: rest => first.render :: Expr.renderList rest

/-- The SQL texts of several column definitions, in order. -/
def Column.renderList : List Column → List String
  | [] => []
  | first :: rest => first.render :: Column.renderList rest

end

@[simp] theorem Expr.renderList_eq_map (exprs : List Expr) :
    Expr.renderList exprs = exprs.map Expr.render := by
  induction exprs with
  | nil => rfl
  | cons _ _ ih => simp [Expr.renderList, ih]

@[simp] theorem Column.renderList_eq_map (columns : List Column) :
    Column.renderList columns = columns.map Column.render := by
  induction columns with
  | nil => rfl
  | cons _ _ ih => simp [Column.renderList, ih]

end SchemaMigration
