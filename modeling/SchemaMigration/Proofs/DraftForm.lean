import SchemaMigration.Draft

/-!
# Statements as drafts

A draft may hold anything in any place, and building it checks that each place holds a node of the
kind that it asks for. Every statement can be written down as a draft that leaves nothing to be made
into something else: each identifier, expression and table reference stands there as the node that
it is. Building that draft succeeds and gives the statement back (`Statement.build_toDraft`). Hence
a statement has a node of the right kind in each of its places, whoever made it. The same holds of
every other node (`Node.build_toDraft`).
-/

namespace SchemaMigration

/-! ## Writing a statement down -/

/-- The draft that writes an identifier. -/
def Identifier.toDraft : Identifier → Draft
  | .name text => .unqualified text
  | .qualified container base => .qualified container base

mutual

/-- The draft that writes an expression. -/
def Expr.toDraft : Expr → Draft
  | .literal text => .literal text
  | .ident name => .ident name.toDraft
  | .binary left operator right => .binary left.toDraft operator right.toDraft
  | .assign field value => .assign field.toDraft value.toDraft
  | .references table column onDelete onUpdate =>
    .references table.toDraft column onDelete onUpdate
  | .column definition => definition.toDraft
  | .tableBody columns => .tableBody (Column.toDrafts columns)
  | .addColumn definition ifNotExists => .addColumn definition.toDraft ifNotExists
  | .dropColumn name => .dropColumn name.toDraft
  | .addConstraint name body => .addConstraint name.toDraft body.toDraft
  | .renameTo newName => .renameTo newName.toDraft

/-- The draft that writes a column definition. -/
def Column.toDraft : Column → Draft
  | .define name dataType constraints =>
    .column name.toDraft dataType.toDraft (Expr.toDrafts constraints)

/-- The drafts that write several expressions, in order. -/
def Expr.toDrafts : List Expr → List Draft
  | [] => []
  | first :: rest => first.toDraft :: Expr.toDrafts rest

/-- The drafts that write several column definitions, in order. -/
def Column.toDrafts : List Column → List Draft
  | [] => []
  | first :: rest => first.toDraft :: Column.toDrafts rest

end

/-- The draft that writes a table reference. -/
def TableRef.toDraft (ref : TableRef) : Draft :=
  .tableRef ref.table.toDraft ref.shortName

/-- The draft that writes a conflict clause. -/
def ConflictClause.toDraft (clause : ConflictClause) : Draft :=
  .conflict clause.cause.toDraft (Expr.toDrafts clause.assignments)

/-- The draft that writes a select. -/
def Select.toDraft (query : Select) : Draft :=
  .select (Expr.toDrafts query.columns) query.source.toDraft (query.condition.map Expr.toDraft)

/-- The draft that writes the values of an insert, as pairs. -/
def rowDraft (row : List (String × Expr)) : RowDraft :=
  .pairs (row.map fun cell => (cell.1, cell.2.toDraft))

/-- The draft that writes a statement. -/
def Statement.toDraft : Statement → Draft
  | .alter target name action => .alter (.text target.noun) name.toDraft action.toDraft
  | .create target name body ifNotExists =>
    .create (.text target.noun) name.toDraft (body.map Expr.toDraft) ifNotExists
  | .drop target name => .drop (.text target.noun) name.toDraft
  | .insert table row onConflict =>
    .insert table.toDraft (rowDraft row) (onConflict.map ConflictClause.toDraft)
  | .update table assignments condition =>
    .update table.toDraft (Expr.toDrafts assignments) (condition.map Expr.toDraft)
  | .select query => query.toDraft
  | .withSelect name inner outer => .withSelect name inner.toDraft outer.toDraft

/-! ## Building it again -/

namespace Draft

theorem toPart_identifier (i : Identifier) :
    toPart i.toDraft = .ok (.node (.identifier i)) := by
  cases i with
  | name text => rw [Identifier.toDraft, toPart]
  | qualified container base => rw [Identifier.toDraft, toPart]

/-- An expression as the node that it is. -/
def exprPart (e : Expr) : Part := .node (.expr e)

/-- A column definition as the node that it is. -/
def columnPart (c : Column) : Part := .node (.expr (.column c))

/-- A conflict clause as the node that it is. -/
def conflictPart (clause : ConflictClause) : Part := .node (.conflict clause)

/-- The name of a field with the expression of its value as the node that it is. -/
def cellPart (cell : String × Expr) : String × Part := (cell.1, exprPart cell.2)

theorem toExpr_exprPart (e : Expr) : (exprPart e).toExpr = .ok e := rfl

theorem toColumn_columnPart (c : Column) : (columnPart c).toColumn = .ok c := rfl

/-- Parts that are already what their place asks for stay what they are. -/
theorem mapM_map_of_eq_ok {α β : Type} (write : α → β) {make : β → Except Fault α}
    (h : ∀ a, make (write a) = .ok a) (as : List α) : (as.map write).mapM make = .ok as := by
  induction as with
  | nil => rfl
  | cons first rest ih =>
    rw [List.map_cons, List.mapM_cons, h, ih]
    rfl

/-- The same for a part that may be absent. -/
theorem optionally_map_of_eq_ok {α : Type} (write : α → Part) {make : Part → Except Fault α}
    (h : ∀ a, make (write a) = .ok a) (found : Option α) :
    optionally make (found.map write) = .ok found := by
  cases found with
  | none => rfl
  | some a =>
    rw [Option.map_some, optionally, h]
    rfl

theorem mapM_toExpr (es : List Expr) : (es.map exprPart).mapM Part.toExpr = .ok es :=
  mapM_map_of_eq_ok exprPart toExpr_exprPart es

theorem mapM_toColumn (cs : List Column) : (cs.map columnPart).mapM Part.toColumn = .ok cs :=
  mapM_map_of_eq_ok columnPart toColumn_columnPart cs

theorem optionally_toExpr (found : Option Expr) :
    optionally Part.toExpr (found.map exprPart) = .ok found :=
  optionally_map_of_eq_ok exprPart toExpr_exprPart found

/-- An optional draft amounts to what the draft amounts to, if there is one. -/
theorem toOptionalPart_map {α : Type} {draft : α → Draft} {write : α → Part}
    (h : ∀ a, toPart (draft a) = .ok (write a)) (found : Option α) :
    toOptionalPart (found.map draft) = .ok (found.map write) := by
  cases found with
  | none => rw [Option.map_none, toOptionalPart, Option.map_none]
  | some a =>
    rw [Option.map_some, toOptionalPart, h]
    rfl

/-! ### Expressions -/

mutual

theorem toPart_expr : ∀ e : Expr, toPart e.toDraft = .ok (exprPart e)
  | .literal s => by rw [Expr.toDraft, toPart, exprPart]
  | .ident name => by
    -- A node's draft has parts of the right kind, so each place takes them as they are.
    rw [Expr.toDraft, toPart, toPart_identifier]
    rfl
  | .binary left operator right => by
    rw [Expr.toDraft, toPart, toPart_expr left, toPart_expr right]
    rfl
  | .assign field value => by
    rw [Expr.toDraft, toPart, toPart_identifier, toPart_expr value]
    rfl
  | .references table field onDelete onUpdate => by
    rw [Expr.toDraft, toPart, toPart_identifier]
    rfl
  | .column definition => by
    -- A column is one node in both roles, as an expression and as a column definition.
    rw [Expr.toDraft]
    exact toPart_column definition
  | .tableBody columns => by
    rw [Expr.toDraft, toPart, toParts_columns columns]
    -- The columns are made into columns one by one, which changes none of them.
    show (List.mapM Part.toColumn (columns.map columnPart) >>= _) = _
    rw [mapM_toColumn]
    rfl
  | .addColumn definition ifNotExists => by
    rw [Expr.toDraft, toPart, toPart_column definition]
    rfl
  | .dropColumn name => by
    rw [Expr.toDraft, toPart, toPart_identifier]
    rfl
  | .addConstraint name body => by
    rw [Expr.toDraft, toPart, toPart_identifier, toPart_expr body]
    rfl
  | .renameTo newName => by
    rw [Expr.toDraft, toPart, toPart_identifier]
    rfl

theorem toPart_column : ∀ c : Column, toPart c.toDraft = .ok (columnPart c)
  | .define name dataType constraints => by
    rw [Column.toDraft, toPart, toPart_identifier, toPart_identifier, toParts_exprs constraints]
    show (List.mapM Part.toExpr (constraints.map exprPart) >>= _) = _
    rw [mapM_toExpr]
    rfl

theorem toParts_exprs : ∀ es : List Expr, toParts (Expr.toDrafts es) = .ok (es.map exprPart)
  | [] => by rw [Expr.toDrafts, toParts, List.map_nil]
  | first :: rest => by
    rw [Expr.toDrafts, toParts, toPart_expr first, toParts_exprs rest]
    rfl

theorem toParts_columns :
    ∀ cs : List Column, toParts (Column.toDrafts cs) = .ok (cs.map columnPart)
  | [] => by rw [Column.toDrafts, toParts, List.map_nil]
  | first :: rest => by
    rw [Column.toDrafts, toParts, toPart_column first, toParts_columns rest]
    rfl

end

/-! ### Parts of statements -/

theorem toPart_tableRef (ref : TableRef) : toPart ref.toDraft = .ok (.node (.tableRef ref)) := by
  rw [TableRef.toDraft, toPart, toPart_identifier]
  rfl

theorem toPart_conflict (clause : ConflictClause) :
    toPart clause.toDraft = .ok (conflictPart clause) := by
  rw [ConflictClause.toDraft, toPart, toPart_expr, toParts_exprs]
  show (List.mapM Part.toExpr (clause.assignments.map exprPart) >>= _) = _
  rw [mapM_toExpr]
  rfl

theorem toPart_select (query : Select) :
    toPart query.toDraft = .ok (.node (.statement (.select query))) := by
  rw [Select.toDraft, toPart, toParts_exprs, toPart_tableRef, toOptionalPart_map toPart_expr]
  show (List.mapM Part.toExpr (query.columns.map exprPart) >>= _) = _
  rw [mapM_toExpr]
  show (optionally Part.toExpr (query.condition.map exprPart) >>= _) = _
  rw [optionally_toExpr]
  rfl

theorem toFields_map (row : List (String × Expr)) :
    toFields (row.map fun cell => (cell.1, cell.2.toDraft)) =
      .ok (row.map cellPart) := by
  induction row with
  | nil => rw [List.map_nil, toFields, List.map_nil]
  | cons cell rest ih =>
    rw [List.map_cons, toFields, toPart_expr, ih]
    rfl

theorem target_noun (t : Target) : target (.text t.noun) = .ok t := by
  unfold target
  simp only [Target.ofNoun?_noun]

/-! ### Statements -/

theorem toPart_statement (s : Statement) : toPart s.toDraft = .ok (.node (.statement s)) := by
  cases s with
  | alter target name action =>
    rw [Statement.toDraft, toPart, toPart_identifier, toPart_expr, target_noun]
    rfl
  -- The body may be missing, and a place for an optional part lets that pass.
  | create target name body ifNotExists =>
    rw [Statement.toDraft, toPart, toPart_identifier, toOptionalPart_map toPart_expr, target_noun]
    show (optionally Part.toExpr (body.map exprPart) >>= _) = _
    rw [optionally_toExpr]
    rfl
  | drop target name =>
    rw [Statement.toDraft, toPart, toPart_identifier, target_noun]
    rfl
  | insert table row onConflict =>
    rw [Statement.toDraft, toPart, toPart_tableRef, rowDraft, toRow, toFields_map,
      toOptionalPart_map toPart_conflict]
    -- Each cell holds an expression, which its place takes as it is.
    show ((row.map cellPart).mapM _ >>= _ : Except Fault Part) = _
    rw [mapM_map_of_eq_ok cellPart fun _ => rfl]
    show (optionally Part.toConflictClause (onConflict.map conflictPart) >>= _) = _
    rw [optionally_map_of_eq_ok conflictPart fun _ => rfl]
    rfl
  | update table assignments condition =>
    rw [Statement.toDraft, toPart, toPart_tableRef, toParts_exprs, toOptionalPart_map toPart_expr]
    show (List.mapM Part.toExpr (assignments.map exprPart) >>= _) = _
    rw [mapM_toExpr]
    show (optionally Part.toExpr (condition.map exprPart) >>= _) = _
    rw [optionally_toExpr]
    rfl
  | select query =>
    rw [Statement.toDraft]
    exact toPart_select query
  | withSelect name inner outer =>
    rw [Statement.toDraft, toPart, toPart_select, toPart_select]
    rfl

end Draft

/-- **A statement is what its draft builds.** -/
theorem Statement.build_toDraft (s : Statement) : Draft.build s.toDraft = .ok (.statement s) := by
  rw [Draft.build, Draft.toPart_statement]
  rfl

namespace Draft

/-- A draft builds a node exactly when it amounts to it. -/
theorem build_eq_ok_iff {draft : Draft} {n : Node} :
    draft.build = .ok n ↔ draft.toPart = .ok (.node n) := by
  rw [build]
  constructor
  · intro h
    -- Anything but a node is refused at the end.
    cases hpart : draft.toPart with
    | error fault =>
      rw [hpart] at h
      cases h
    | ok part =>
      rw [hpart] at h
      cases part with
      | node m =>
        cases h
        rfl
      | _ => cases h
  · intro h
    rw [h]
    rfl

end Draft

/-- The draft that writes a node: each of its parts is the draft of what stands there. -/
def Node.toDraft : Node → Draft
  | .identifier i => i.toDraft
  | .key k => .key k.schema k.object k.field
  | .expr e => e.toDraft
  | .tableRef t => t.toDraft
  | .conflict c => c.toDraft
  | .statement s => s.toDraft

/-- A node is what its own parts build. -/
theorem Node.build_toDraft (n : Node) : n.toDraft.build = .ok n := by
  rw [Draft.build_eq_ok_iff]
  cases n with
  | identifier i => exact Draft.toPart_identifier i
  | key k => rw [Node.toDraft, Draft.toPart]
  | expr e => exact Draft.toPart_expr e
  | tableRef t => exact Draft.toPart_tableRef t
  | conflict c => exact Draft.toPart_conflict c
  | statement s => exact Draft.toPart_statement s

end SchemaMigration
