import SchemaMigration.Node
import SchemaMigration.Text.Quoted

/-!
# The form of a node in a message

The form in which a message shows a node that stands in the wrong place: the label of its kind, and
all its parts by their names.
-/

namespace SchemaMigration

/-- The form of a node: its label and its parts by their names. -/
def partsForm (label : String) (parts : List (String × String)) : String :=
  label ++ "(" ++ ", ".intercalate (parts.map fun part => part.1 ++ "=" ++ part.2) ++ ")"

/-- The form of several parts under one name; a comma stands behind a single one. -/
def groupForm : List String → String
  | [part] => "(" ++ part ++ ",)"
  | parts => "(" ++ ", ".intercalate parts ++ ")"

/-- The form of a flag. -/
def flagForm (b : Bool) : String := if b then "True" else "False"

/-- The form of a part that may be absent. -/
def optionForm (part : Option String) : String := part.getD "None"

/-- The form of a target. -/
def Target.form (target : Target) : String :=
  "<SqlTarget." ++ target.noun.toUpper ++ ": " ++ Text.quoted target.noun ++ ">"

/-- The form of an identifier. -/
def Identifier.form (i : Identifier) : String :=
  partsForm i.label <|
    match i with
    | .name text => [("name", Text.quoted text)]
    | .qualified container base =>
      [("container", Text.quoted container), ("name", Text.quoted base)]

/-- The form of a key. -/
def ObjectKey.form (key : ObjectKey) : String :=
  partsForm "NamedObject"
    [("schema", Text.quoted key.schema), ("object", Text.quoted key.object),
      ("field", Text.quoted key.field)]

mutual

/-- The form of an expression. -/
def Expr.form : Expr → String
  | .literal text => partsForm "Literal" [("text", Text.quoted text)]
  | .ident i => partsForm "IdentExpr" [("ident", i.form)]
  | .binary left operator right =>
    partsForm "BinaryExpr"
      [("left", left.form), ("operator", Text.quoted operator), ("right", right.form)]
  | .assign field value => partsForm "SetExpr" [("field", field.form), ("value", value.form)]
  | .references table column onDelete onUpdate =>
    partsForm "ReferencesExpr"
      [("table", table.form), ("column", Text.quoted column),
        ("on_delete", Text.quoted onDelete), ("on_update", Text.quoted onUpdate)]
  | .column definition => definition.form
  | .tableBody columns =>
    partsForm "TableBodyDescriber" [("fields", groupForm (Column.forms columns))]
  | .addColumn definition ifNotExists =>
    partsForm "AddColumnExpr"
      [("field", definition.form), ("if_not_exists", flagForm ifNotExists)]
  | .dropColumn name => partsForm "DropColumnExpr" [("name", name.form)]
  | .addConstraint name body =>
    partsForm "AddConstraintExpr" [("name", name.form), ("body", body.form)]
  | .renameTo newName => partsForm "RenameToExpr" [("new_name", newName.form)]

/-- The form of a column definition. -/
def Column.form : Column → String
  | .define name dataType constraints =>
    partsForm "FieldDescriber"
      [("name", name.form), ("data_type", dataType.form),
        ("constraints", groupForm (Expr.forms constraints))]

/-- The forms of several expressions, in order. -/
def Expr.forms : List Expr → List String
  | [] => []
  | first :: rest => first.form :: Expr.forms rest

/-- The forms of several column definitions, in order. -/
def Column.forms : List Column → List String
  | [] => []
  | first :: rest => first.form :: Column.forms rest

end

/-- The form of a table reference. -/
def TableRef.form (ref : TableRef) : String :=
  partsForm "TableDesc" [("table", ref.table.form), ("alias", Text.quoted ref.shortName)]

/-- The form of a conflict clause. -/
def ConflictClause.form (clause : ConflictClause) : String :=
  partsForm "OnConflict"
    [("cause", clause.cause.form), ("set", groupForm (Expr.forms clause.assignments))]

/-- The form of a select. -/
def Select.form (query : Select) : String :=
  partsForm "SelectStmt"
    [("columns", groupForm (Expr.forms query.columns)), ("from_", query.source.form),
      ("where", optionForm (query.condition.map Expr.form))]

/-- The form of the values of an insert. -/
def rowForm (row : List (String × Expr)) : String :=
  groupForm (row.map fun field => groupForm [Text.quoted field.1, field.2.form])

/-- The form of a statement. -/
def Statement.form : Statement → String
  | .alter target name action =>
    partsForm "AlterStmt"
      [("target", target.form), ("name", name.form), ("alter", action.form)]
  | .create target name body ifNotExists =>
    partsForm "CreateStmt"
      [("target", target.form), ("name", name.form),
        ("create", optionForm (body.map Expr.form)), ("if_not_exists", flagForm ifNotExists)]
  | .drop target name =>
    partsForm "DropStmt" [("target", target.form), ("name", name.form)]
  | .insert table row onConflict =>
    partsForm "InsertStmt"
      [("table", table.form), ("values", rowForm row),
        ("on_conflict", optionForm (onConflict.map ConflictClause.form))]
  | .update table assignments condition =>
    partsForm "UpdateStmt"
      [("table", table.form), ("set", groupForm (Expr.forms assignments)),
        ("where", optionForm (condition.map Expr.form))]
  | .select query => query.form
  | .withSelect name inner outer =>
    partsForm "WithStmt"
      [("name", Text.quoted name), ("with_", inner.form), ("select", outer.form)]

/-- The form of a node with its parts named. -/
def Node.form : Node → String
  | .identifier i => i.form
  | .key k => k.form
  | .expr e => e.form
  | .tableRef t => t.form
  | .conflict c => c.form
  | .statement s => s.form

end SchemaMigration
