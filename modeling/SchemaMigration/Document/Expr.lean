import SchemaMigration.Document.Name

/-!
# Expressions in documents

Text, numbers and booleans are literals. Everything else is a mapping that names its kind; the kind
decides which keys are read, in which order, and where a fault in one of them lies.
-/

namespace SchemaMigration

open Document

/-- The kinds of expressions that a document can name. -/
inductive ExprKind where
  | literal
  | ident
  | binary
  | assign
  | references
  | column
  | tableBody
  | addColumn
  | dropColumn
  | addConstraint
  | renameTo
  deriving DecidableEq

namespace ExprKind

/-- The name of the kind in documents. -/
def name : ExprKind → String
  | literal => "literal"
  | ident => "ident"
  | binary => "binary"
  | assign => "set"
  | references => "references"
  | column => "field"
  | tableBody => "table_body"
  | addColumn => "add_column"
  | dropColumn => "drop_column"
  | addConstraint => "add_constraint"
  | renameTo => "rename_to"

/-- Every kind, once. -/
def all : List ExprKind :=
  [literal, ident, binary, assign, references, column, tableBody, addColumn, dropColumn,
    addConstraint, renameTo]

/-- The kind of a name. -/
def ofName? (text : String) : Option ExprKind :=
  all.find? (·.name = text)

@[simp] theorem ofName?_name (kind : ExprKind) : ofName? kind.name = some kind := by
  cases kind <;> decide

end ExprKind

mutual

/-- The expression that a value writes. -/
def Expr.ofValue (value : Value) : Loading Expr :=
  match h : value.content with
  | .bool b => .ok (.literal (if b then "true" else "false"))
  | .text s => .ok (.literal s)
  | .brokenText codes => .ok (.literal (Value.brokenText codes).display)
  | .int n => do return .literal (← shown (.int n))
  | .float x => .ok (.literal (Value.float x).display)
  | .mapping entries => do
    have := Value.sizeOf_lt_of_content_eq_mapping h
    let kind ← kindText entries
    match ExprKind.ofName? kind with
    | some kind => Expr.ofEntries entries kind
    | none => Loading.refuse (.unknownExpressionKind kind)
  | other => Loading.refuse (.notAnExpression other.kindName)
termination_by (sizeOf value, 0)

/-- The expression of a kind that the entries of a mapping write. -/
def Expr.ofEntries (entries : Entries) : ExprKind → Loading Expr
  | .literal => do
    let text ← require entries "text"
    return .literal (← shown text.1)
  | .ident => do
    let name ← require entries "ident"
    return .ident (← Identifier.ofValue name.1)
  | .binary => do
    let ⟨left, _⟩ ← require entries "left"
    let left ← (Expr.ofValue left).under (.key "left")
    let operator ← require entries "operator"
    let operator ← shown operator.1
    let ⟨right, _⟩ ← require entries "right"
    let right ← (Expr.ofValue right).under (.key "right")
    return .binary left operator right
  | .assign => do
    let field ← identifierAt entries "field"
    let ⟨value, _⟩ ← require entries "value"
    return .assign field (← (Expr.ofValue value).under (.key "value"))
  | .references => do
    let table ← identifierAt entries "table"
    let column ← textOrEmpty entries "column"
    let onDelete ← textOrEmpty entries "on_delete"
    return .references table column onDelete (← textOrEmpty entries "on_update")
  | .column => do return .column (← Column.ofEntries entries)
  | .tableBody => do
    match ← optionalList entries "fields" with
    | none => return .tableBody []
    | some ⟨items, _⟩ => return .tableBody (← (Column.ofItems 0 items).under (.key "fields"))
  | .addColumn => do
    let ⟨value, _⟩ ← require entries "field"
    let definition ← (Column.ofValue value).under (.key "field")
    return .addColumn definition (← flag entries "if_not_exists")
  | .dropColumn => do
    let name ← require entries "name"
    return .dropColumn (← Identifier.ofValue name.1)
  | .addConstraint => do
    let name ← identifierAt entries "name"
    let ⟨body, _⟩ ← require entries "body"
    return .addConstraint name (← (Expr.ofValue body).under (.key "body"))
  | .renameTo => do
    let name ← require entries "new_name"
    return .renameTo (← Identifier.ofValue name.1)
termination_by (sizeOf entries, 1)

/-- The column definition that a value writes. -/
def Column.ofValue (value : Value) : Loading Column :=
  match h : value.content with
  | .mapping entries =>
    have := Value.sizeOf_lt_of_content_eq_mapping h
    Column.ofEntries entries
  | _ => Loading.refuse .columnNotMapping
termination_by (sizeOf value, 0)

/-- The column definition that the entries of a mapping write. -/
def Column.ofEntries (entries : Entries) : Loading Column := do
  let name ← identifierAt entries "name"
  let dataType ← identifierAt entries "type"
  match ← optionalList entries "constraints" with
  | none => return .define name dataType []
  | some ⟨items, _⟩ =>
    return .define name dataType (← (Expr.ofItems 0 items).under (.key "constraints"))
termination_by (sizeOf entries, 0)

/-- The expressions that the items of a list write, counted from the given index. -/
def Expr.ofItems : Nat → List Value → Loading (List Expr)
  | _, [] => .ok []
  | i, item :: rest => do
    let first ← (Expr.ofValue item).under (.index i)
    return first :: (← Expr.ofItems (i + 1) rest)
termination_by _ items => (sizeOf items, 0)

/-- The column definitions that the items of a list write, counted from the given index. -/
def Column.ofItems : Nat → List Value → Loading (List Column)
  | _, [] => .ok []
  | i, item :: rest => do
    let first ← (Column.ofValue item).under (.index i)
    return first :: (← Column.ofItems (i + 1) rest)
termination_by _ items => (sizeOf items, 0)

end

/-- The expressions that a value writes, which has to be a list. -/
def Expr.listOfValue (value : Value) : Loading (List Expr) :=
  match value.content with
  | .list items => Expr.ofItems 0 items
  | _ => Loading.refuse .notAList

/-- The expression under a key, if there is one. -/
def Document.optionalExprAt (entries : Entries) (key : String) : Loading (Option Expr) :=
  match optional entries key with
  | none => .ok none
  | some value => do return some (← (Expr.ofValue value.1).under (.key key))

/-- The expressions under a key that has to be there. -/
def Document.exprListAt (entries : Entries) (key : String) : Loading (List Expr) := do
  let value ← require entries key
  (Expr.listOfValue value.1).under (.key key)

end SchemaMigration
