import SchemaMigration.Expr.Basic
import SchemaMigration.ObjectKey

/-!
# The objects that have to exist before an expression can be used

Foreign keys need the table they refer to, and its column if they name one; a column needs its type
if the type is qualified, because only such types are defined by users. All other needs come from
the parts of an expression, from left to right.
-/

namespace SchemaMigration

/-- The keys of a type: one key when it is written with its schema, none for a built-in type. -/
def Identifier.requiredAsType (dataType : Identifier) : Keys :=
  if dataType.isQualified then do
    let resolved ← dataType.resolve .type
    return [ObjectKey.ofResolved resolved]
  else return []

/-- The keys of a referenced table: the table itself, then its column unless that is empty. -/
def Identifier.requiredAsReference (table : Identifier) (column : String) : Keys := do
  let resolved ← table.resolve .table
  if column = "" then return [ObjectKey.ofResolved resolved]
  else return [ObjectKey.ofResolved resolved, ObjectKey.ofField resolved column]

mutual

/-- The keys that an expression needs, from left to right. -/
def Expr.requires : Expr → Keys
  | .literal _ => .ok []
  | .ident _ => .ok []
  | .binary left _ right => Keys.append left.requires right.requires
  | .assign _ value => value.requires
  | .references table column _ _ => table.requiredAsReference column
  | .column definition => definition.requires
  | .tableBody columns => Column.requiresList columns
  | .addColumn definition _ => definition.requires
  | .dropColumn _ => .ok []
  | .addConstraint _ body => body.requires
  | .renameTo _ => .ok []

/-- The keys that a column definition needs: those of its type, then those of its constraints. -/
def Column.requires : Column → Keys
  | .define _ dataType constraints =>
    Keys.append dataType.requiredAsType (Expr.requiresList constraints)

/-- The keys that several expressions need, in order. -/
def Expr.requiresList : List Expr → Keys
  | [] => .ok []
  | first :: rest => Keys.append first.requires (Expr.requiresList rest)

/-- The keys that several column definitions need, in order. -/
def Column.requiresList : List Column → Keys
  | [] => .ok []
  | first :: rest => Keys.append first.requires (Column.requiresList rest)

end

@[simp] theorem Expr.requiresList_eq_concat (exprs : List Expr) :
    Expr.requiresList exprs = Keys.concat (exprs.map Expr.requires) := by
  induction exprs with
  | nil => rfl
  | cons _ _ ih => simp [Expr.requiresList, Keys.concat, ih]

@[simp] theorem Column.requiresList_eq_concat (columns : List Column) :
    Column.requiresList columns = Keys.concat (columns.map Column.requires) := by
  induction columns with
  | nil => rfl
  | cons _ _ ih => simp [Column.requiresList, Keys.concat, ih]

end SchemaMigration
