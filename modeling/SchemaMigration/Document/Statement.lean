import SchemaMigration.Document.Expr

/-!
# Statements and batches in documents

A statement is a mapping that names its kind. A batch is a list of statements, or a mapping that
holds that list under a key.
-/

namespace SchemaMigration

open Document

/-- The kinds of statements that a document can name. -/
inductive StatementKind where
  | alter
  | create
  | drop
  | insert
  | update
  | select
  | withSelect
  deriving DecidableEq

namespace StatementKind

/-- The name of the kind in documents. -/
def name : StatementKind → String
  | alter => "alter"
  | create => "create"
  | drop => "drop"
  | insert => "insert"
  | update => "update"
  | select => "select"
  | withSelect => "with"

/-- Every kind, once. -/
def all : List StatementKind :=
  [alter, create, drop, insert, update, select, withSelect]

/-- The kind of a name. -/
def ofName? (text : String) : Option StatementKind :=
  all.find? (·.name = text)

@[simp] theorem ofName?_name (kind : StatementKind) : ofName? kind.name = some kind := by
  cases kind <;> decide

end StatementKind

/-! ### Values of an insert -/

namespace Document

/-- The fields and values that a list of pairs writes, counted from the given index. -/
def pairsOfItems : Nat → List Value → Loading Entries
  | _, [] => .ok []
  | i, item :: rest =>
    match item.content with
    | .mapping entries => do
      let field ← (require entries "field").under (.index i)
      let value ← (require entries "value").under (.index i)
      return (field.1, value.1) :: (← pairsOfItems (i + 1) rest)
    | _ => (Loading.refuse .pairNotMapping).under (.index i)

/-- The fields and values of an insert: the entries of a mapping, or a list of pairs. -/
def pairsOfValue (value : Value) : Loading Entries :=
  match value.content with
  | .mapping entries => .ok entries
  | .list items => pairsOfItems 0 items
  | _ => Loading.refuse .valuesShape

/-- The fields with the expressions of their values. -/
def rowOfPairs : Entries → Loading (List (String × Expr))
  | [] => .ok []
  | (field, value) :: rest => do
    let name ← shown field
    let expr ← (Expr.ofValue value).under (.key name)
    return (name, expr) :: (← rowOfPairs rest)

/-- The conflict clause that a value writes. -/
def conflictOfValue (value : Value) : Loading ConflictClause :=
  match value.content with
  | .mapping entries => do
    let cause ← require entries "cause"
    let cause ← (Expr.ofValue cause.1).under (.key "cause")
    match ← optionalList entries "set" with
    | none => return ⟨cause, []⟩
    | some items => return ⟨cause, ← (Expr.ofItems 0 items.1).under (.key "set")⟩
  | _ => Loading.refuse .conflictNotMapping

/-- The conflict clause of an insert, if it has one. -/
def conflictAt (entries : Entries) : Loading (Option ConflictClause) :=
  match optional entries "on_conflict" with
  | none => .ok none
  | some value => do return some (← (conflictOfValue value.1).under (.key "on_conflict"))

end Document

/-! ### Statements -/

/-- The select that the entries of a mapping write. -/
def Select.ofEntries (entries : Entries) : Loading Select := do
  let columns ← exprListAt entries "columns"
  let source ← tableAt entries "from"
  return ⟨columns, source, ← optionalExprAt entries "where"⟩

/-- The select that is embedded under a key. -/
def Document.selectAt (entries : Entries) (key : String) : Loading Select := do
  let value ← require entries key
  match value.1.content with
  | .mapping inner => (Select.ofEntries inner).under (.key key)
  | _ => (Loading.refuse .selectNotMapping).under (.key key)

/-- The statement of a kind that the entries of a mapping write. -/
def Statement.ofEntries (entries : Entries) : StatementKind → Loading Statement
  | .alter => do
    let target ← targetAt entries
    let name ← identifierAt entries "name"
    let action ← require entries "alter"
    return .alter target name (← (Expr.ofValue action.1).under (.key "alter"))
  | .create => do
    let target ← targetAt entries
    let name ← identifierAt entries "name"
    let body ← optionalExprAt entries "create"
    return .create target name body (← flag entries "if_not_exists")
  | .drop => do
    let target ← targetAt entries
    return .drop target (← identifierAt entries "name")
  | .insert => do
    let raw ← require entries "values"
    let pairs ← (pairsOfValue raw.1).under (.key "values")
    let row ← (rowOfPairs pairs).under (.key "values")
    let onConflict ← conflictAt entries
    return .insert (← tableAt entries "table") row onConflict
  | .update => do
    let table ← tableAt entries "table"
    let assignments ← exprListAt entries "set"
    return .update table assignments (← optionalExprAt entries "where")
  | .select => do return .select (← Select.ofEntries entries)
  | .withSelect => do
    let name ← require entries "name"
    let name ← shown name.1
    let inner ← selectAt entries "with"
    return .withSelect name inner (← selectAt entries "select")

/-- The statement that a value writes. -/
def Statement.ofValue (value : Value) : Loading Statement :=
  match value.content with
  | .mapping entries => do
    let kind ← kindText entries
    match StatementKind.ofName? kind with
    | some kind => Statement.ofEntries entries kind
    | none => Loading.refuse (.unknownStatementKind kind)
  | _ => Loading.refuse .statementNotMapping

/-- A batch: statements in the order in which they run. -/
abbrev Batch := List Statement

namespace Document

/-- The statements that the items of a list write, counted from the given index. -/
def statementsOfItems : Nat → List Value → Loading Batch
  | _, [] => .ok []
  | i, item :: rest => do
    let first ← (Statement.ofValue item).under (.statement i)
    return first :: (← statementsOfItems (i + 1) rest)

/-- The items of a batch: those of a list, or of the list under the key `statements`. -/
def batchItems (value : Value) : Loading (List Value) :=
  match value.content with
  | .list items => .ok items
  | .mapping entries => do
    let value ← require entries "statements"
    match value.1.content with
    | .list items => return items
    | _ => Loading.refuse .notABatch
  | _ => Loading.refuse .notABatch

end Document

/-- The batch that a value writes. -/
def Batch.ofValue (value : Value) : Loading Batch := do
  statementsOfItems 0 (← batchItems value)

end SchemaMigration
