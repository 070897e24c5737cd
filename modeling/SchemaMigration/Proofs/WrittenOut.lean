import SchemaMigration.Proofs.DraftForm
import SchemaMigration.Proofs.DraftParts

/-!
# Writing out what a draft abbreviates

In a draft a text may stand for an identifier, an expression or a table reference, and the values of
an insert may be a mapping. Writing a draft out puts in place of each such text the name, the
literal or the table reference that its place makes of it, and in place of each mapping its fields
in order (`Draft.writtenOut`).

Where a draft builds a node, this leaves nothing that stands for something else
(`Draft.explicit_writtenOut`): each text has either been written out or stands where no text may
stand. The induction is over the draft, and what is known of its parts is what their places make of
them (`Draft.Amounts`). In the draft that writes a node there is nothing to be written out to begin
with (`Node.writtenOut_toDraft`).
-/

namespace SchemaMigration

namespace Draft

/-! ## Writing out -/

/-- A text is written in the way of its place; everything else stands for itself. -/
def spelledBy (write : String → Draft) : Draft → Draft
  | text s => write s
  | other => other

/-- The draft in the place of an identifier, where a text stands for the name. -/
def asIdentifier : Draft → Draft := spelledBy .unqualified

/-- The draft in the place of an expression, where a text stands for the literal. -/
def asExpr : Draft → Draft := spelledBy .literal

/-- The draft in the place of a table reference, where a text stands for the table of this name. -/
def asTableRef : Draft → Draft := spelledBy fun s => .tableRef (.unqualified s) ""

/-- A field with its value in the place of an expression. -/
def cellAsExpr (cell : String × Draft) : String × Draft := (cell.1, cell.2.asExpr)

mutual

/-- The draft with each text that stands for a node written out as this node, and each mapping as
its fields in order. -/
def writtenOut : Draft → Draft
  | text s => .text s
  | plain value => .plain value
  | unqualified s => .unqualified s
  | qualified container base => .qualified container base
  | key schema object field => .key schema object field
  | literal s => .literal s
  | ident identifier => .ident identifier.writtenOut.asIdentifier
  | binary left operator right =>
    .binary left.writtenOut.asExpr operator right.writtenOut.asExpr
  | assign field value => .assign field.writtenOut.asIdentifier value.writtenOut.asExpr
  | references table field onDelete onUpdate =>
    .references table.writtenOut.asIdentifier field onDelete onUpdate
  | column name dataType constraints =>
    .column name.writtenOut.asIdentifier dataType.writtenOut.asIdentifier
      ((writtenOuts constraints).map asExpr)
  | tableBody columns => .tableBody (writtenOuts columns)
  | addColumn definition ifNotExists => .addColumn definition.writtenOut ifNotExists
  | dropColumn name => .dropColumn name.writtenOut.asIdentifier
  | addConstraint name body =>
    .addConstraint name.writtenOut.asIdentifier body.writtenOut.asExpr
  | renameTo newName => .renameTo newName.writtenOut.asIdentifier
  | tableRef table shortName => .tableRef table.writtenOut.asIdentifier shortName
  | conflict cause assignments =>
    .conflict cause.writtenOut.asExpr ((writtenOuts assignments).map asExpr)
  | alter noun name action => .alter noun name.writtenOut.asIdentifier action.writtenOut.asExpr
  | create noun name body ifNotExists =>
    .create noun name.writtenOut.asIdentifier ((writtenOutOption body).map asExpr) ifNotExists
  | drop noun name => .drop noun name.writtenOut.asIdentifier
  | insert table row onConflict =>
    .insert table.writtenOut.asTableRef (writtenOutRow row) (writtenOutOption onConflict)
  | update table assignments condition =>
    .update table.writtenOut.asTableRef ((writtenOuts assignments).map asExpr)
      ((writtenOutOption condition).map asExpr)
  | select columns source condition =>
    .select ((writtenOuts columns).map asExpr) source.writtenOut.asTableRef
      ((writtenOutOption condition).map asExpr)
  | withSelect name inner outer => .withSelect name inner.writtenOut outer.writtenOut

/-- Several drafts written out, each in its place. -/
def writtenOuts : List Draft → List Draft
  | [] => []
  | first :: rest => first.writtenOut :: writtenOuts rest

/-- A draft that may be absent, written out. -/
def writtenOutOption : Option Draft → Option Draft
  | none => none
  | some draft => some draft.writtenOut

/-- The fields of an insert with their values written out. -/
def writtenOutFields : List (String × Draft) → List (String × Draft)
  | [] => []
  | (field, value) :: rest => (field, value.writtenOut) :: writtenOutFields rest

/-- The values of an insert, written out as pairs. -/
def writtenOutRow : RowDraft → RowDraft
  | .pairs fields => .pairs ((writtenOutFields fields).map cellAsExpr)
  | .mapping fields => .pairs ((fieldsOfMapping (writtenOutFields fields)).map cellAsExpr)

end

/-- The values of fields written out, with whatever is known of them. -/
theorem forall₂_writtenOutFields {P : Draft → Prop} {fields : List (String × Draft)}
    (h : ∀ entry ∈ fields, P entry.2) :
    List.Forall₂ (Entrywise fun value written => written = value.writtenOut ∧ P value) fields
      (writtenOutFields fields) := by
  induction fields with
  | nil =>
    rw [writtenOutFields]
    exact .nil
  | cons entry rest ih =>
    obtain ⟨hentry, hrest⟩ := List.forall_mem_cons.mp h
    rw [writtenOutFields]
    exact .cons ⟨rfl, rfl, hentry⟩ (ih hrest)

/-! ## Nothing stands for something else -/

mutual

/-- No text in the draft stands for a node and no mapping for pairs. -/
def Explicit : Draft → Prop
  | text _ => False
  | plain _ | unqualified _ | qualified _ _ | key _ _ _ | literal _ => True
  | ident identifier => identifier.Explicit
  | binary left _ right => left.Explicit ∧ right.Explicit
  | assign field value => field.Explicit ∧ value.Explicit
  | references table _ _ _ => table.Explicit
  | column name dataType constraints => name.Explicit ∧ dataType.Explicit ∧ AllExplicit constraints
  | tableBody columns => AllExplicit columns
  | addColumn definition _ => definition.Explicit
  | dropColumn name => name.Explicit
  | addConstraint name body => name.Explicit ∧ body.Explicit
  | renameTo newName => newName.Explicit
  | tableRef table _ => table.Explicit
  | conflict cause assignments => cause.Explicit ∧ AllExplicit assignments
  | alter _ name action => name.Explicit ∧ action.Explicit
  | create _ name body _ => name.Explicit ∧ OptionExplicit body
  | drop _ name => name.Explicit
  | insert table row onConflict => table.Explicit ∧ RowExplicit row ∧ OptionExplicit onConflict
  | update table assignments condition =>
    table.Explicit ∧ AllExplicit assignments ∧ OptionExplicit condition
  | select columns source condition =>
    AllExplicit columns ∧ source.Explicit ∧ OptionExplicit condition
  | withSelect _ inner outer => inner.Explicit ∧ outer.Explicit

/-- The same for each of several drafts. -/
def AllExplicit : List Draft → Prop
  | [] => True
  | first :: rest => first.Explicit ∧ AllExplicit rest

/-- The same for a draft that may be absent. -/
def OptionExplicit : Option Draft → Prop
  | none => True
  | some draft => draft.Explicit

/-- The same for the values of fields. -/
def ValuesExplicit : List (String × Draft) → Prop
  | [] => True
  | (_, value) :: rest => value.Explicit ∧ ValuesExplicit rest

/-- The same for the values of an insert. -/
def RowExplicit : RowDraft → Prop
  | .pairs fields => ValuesExplicit fields
  | .mapping _ => False

end

/-- The draft of a part is explicit, unless its place has yet to make the part of a text. -/
def Settles : Part → Draft → Prop
  | .text s, draft => draft = .text s
  | _, draft => draft.Explicit

/-- The place makes nothing of a text. -/
def RefusesText {α : Type} (make : Part → Except Fault α) : Prop :=
  ∀ s a, make (.text s) ≠ .ok a

theorem refusesText_toColumn : RefusesText Part.toColumn := fun _ _ h => by cases h

theorem refusesText_toConflictClause : RefusesText Part.toConflictClause := fun _ _ h => by cases h

theorem refusesText_toSelect : RefusesText Part.toSelect := fun _ _ h => by cases h

variable {α : Type} {make : Part → Except Fault α} {part : Part} {draft : Draft}

namespace Settles

theorem spelledBy (h : Settles part draft) {write : String → Draft}
    (hwrite : ∀ s, (write s).Explicit) : (spelledBy write draft).Explicit := by
  -- A text is written out by its place, and any other draft is left as it is.
  cases part with
  | text s =>
    obtain rfl : draft = .text s := h
    exact hwrite s
  | _ =>
    cases draft with
    | text s => exact h.elim
    | _ => exact h

/-- A place that refuses texts needs nothing around the part. -/
theorem explicit (h : Settles part draft) (hmake : RefusesText make) {a : α}
    (ha : make part = .ok a) : draft.Explicit := by
  cases part with
  | text s => exact absurd ha (hmake s a)
  | _ => exact h

end Settles

/-- Whatever the draft amounts to, its written-out form is the draft of that. -/
def Settled (draft : Draft) : Prop := ∀ part, Amounts draft part → Settles part draft.writtenOut

namespace Settled

variable {a : α}

theorem spelledBy (h : draft.Settled) (hmakes : Makes make draft a) {write : String → Draft}
    (hwrite : ∀ s, (write s).Explicit) : (Draft.spelledBy write draft.writtenOut).Explicit := by
  obtain ⟨part, hpart, -⟩ := makes_iff.mp hmakes
  exact (h part hpart).spelledBy hwrite

theorem asIdentifier (h : draft.Settled) (hmakes : Makes make draft a) :
    draft.writtenOut.asIdentifier.Explicit :=
  h.spelledBy hmakes fun _ => trivial

theorem asExpr (h : draft.Settled) (hmakes : Makes make draft a) :
    draft.writtenOut.asExpr.Explicit :=
  h.spelledBy hmakes fun _ => trivial

theorem asTableRef (h : draft.Settled) (hmakes : Makes make draft a) :
    draft.writtenOut.asTableRef.Explicit :=
  h.spelledBy hmakes fun _ => trivial

theorem explicit (h : draft.Settled) (hmake : RefusesText make) (hmakes : Makes make draft a) :
    draft.writtenOut.Explicit := by
  obtain ⟨part, hpart, ha⟩ := makes_iff.mp hmakes
  exact (h part hpart).explicit hmake ha

variable {drafts : List Draft} {as : List α} {found : Option Draft} {a? : Option α}

theorem allExplicit_asExpr (h : ∀ draft ∈ drafts, draft.Settled)
    (hmakes : List.Forall₂ (Makes make) drafts as) :
    AllExplicit ((writtenOuts drafts).map Draft.asExpr) := by
  induction hmakes with
  | nil => trivial
  | cons hfirst _ ih =>
    obtain ⟨hsettled, hrest⟩ := List.forall_mem_cons.mp h
    exact ⟨hsettled.asExpr hfirst, ih hrest⟩

theorem allExplicit (h : ∀ draft ∈ drafts, draft.Settled) (hmake : RefusesText make)
    (hmakes : List.Forall₂ (Makes make) drafts as) : AllExplicit (writtenOuts drafts) := by
  induction hmakes with
  | nil => trivial
  | cons hfirst _ ih =>
    obtain ⟨hsettled, hrest⟩ := List.forall_mem_cons.mp h
    exact ⟨hsettled.explicit hmake hfirst, ih hrest⟩

theorem optionExplicit_asExpr (h : ∀ draft ∈ found, draft.Settled)
    (hmakes : Option.Rel (Makes make) found a?) :
    OptionExplicit ((writtenOutOption found).map Draft.asExpr) := by
  cases hmakes with
  | none => trivial
  | some hdraft => exact (h _ rfl).asExpr hdraft

theorem optionExplicit (h : ∀ draft ∈ found, draft.Settled) (hmake : RefusesText make)
    (hmakes : Option.Rel (Makes make) found a?) : OptionExplicit (writtenOutOption found) := by
  cases hmakes with
  | none => trivial
  | some hdraft => exact (h _ rfl).explicit hmake hdraft

theorem valuesExplicit {fields written : List (String × Draft)} {row : List (String × α)}
    (h : List.Forall₂ (Entrywise fun value other => other = value.writtenOut ∧ value.Settled)
      fields written) (hmakes : List.Forall₂ (Entrywise (Makes make)) fields row) :
    ValuesExplicit (written.map cellAsExpr) := by
  -- Draft and written draft have the same fields in the same order.
  induction h generalizing row with
  | nil => trivial
  | cons hentry _ ih =>
    obtain ⟨-, hwritten, hsettled⟩ := hentry
    cases hmakes with
    | cons hfirst hrest =>
      refine ⟨?_, ih hrest⟩
      show Explicit (Draft.asExpr _)
      rw [hwritten]
      exact hsettled.asExpr hfirst.2

end Settled

mutual

/-- Induction over the draft: each place of a node either writes a text out or refuses it. -/
theorem settled : ∀ draft : Draft, draft.Settled
  | .text _, _, .text _ => rfl
  -- A form without parts is explicit as it stands.
  | .plain _, _, .plain _ => trivial
  | .unqualified _, _, .unqualified _ => trivial
  | .qualified _ _, _, .qualified _ _ => trivial
  | .key _ _ _, _, .key _ _ _ => trivial
  | .literal _, _, .literal _ => trivial
  | .ident identifier, _, .ident hidentifier => (settled identifier).asIdentifier hidentifier
  | .binary left _ right, _, .binary hleft hright =>
    ⟨(settled left).asExpr hleft, (settled right).asExpr hright⟩
  | .assign field value, _, .assign hfield hvalue =>
    ⟨(settled field).asIdentifier hfield, (settled value).asExpr hvalue⟩
  | .references table _ _ _, _, .references htable => (settled table).asIdentifier htable
  | .column name dataType constraints, _, .column hname htype hconstraints =>
    ⟨(settled name).asIdentifier hname, (settled dataType).asIdentifier htype,
      Settled.allExplicit_asExpr (settled_of_mem constraints) hconstraints⟩
  -- Column definitions, conflict clauses and selects are never made of a text.
  | .tableBody columns, _, .tableBody hcolumns =>
    Settled.allExplicit (settled_of_mem columns) refusesText_toColumn hcolumns
  | .addColumn definition _, _, .addColumn hdefinition =>
    (settled definition).explicit refusesText_toColumn hdefinition
  | .dropColumn name, _, .dropColumn hname => (settled name).asIdentifier hname
  | .addConstraint name body, _, .addConstraint hname hbody =>
    ⟨(settled name).asIdentifier hname, (settled body).asExpr hbody⟩
  | .renameTo newName, _, .renameTo hname => (settled newName).asIdentifier hname
  | .tableRef table _, _, .tableRef htable => (settled table).asIdentifier htable
  | .conflict cause assignments, _, .conflict hcause hassignments =>
    ⟨(settled cause).asExpr hcause,
      Settled.allExplicit_asExpr (settled_of_mem assignments) hassignments⟩
  | .alter _ name action, _, .alter _ hname haction =>
    ⟨(settled name).asIdentifier hname, (settled action).asExpr haction⟩
  | .create _ name body _, _, .create _ hname hbody =>
    ⟨(settled name).asIdentifier hname,
      Settled.optionExplicit_asExpr (settled_of_mem_option body) hbody⟩
  | .drop _ name, _, .drop _ hname => (settled name).asIdentifier hname
  | .insert table row onConflict, _, .insert htable hrow hconflict =>
    -- The values are explicit whether they were pairs or a mapping.
    ⟨(settled table).asTableRef htable, rowExplicit_writtenOut row hrow,
      Settled.optionExplicit (settled_of_mem_option onConflict) refusesText_toConflictClause
        hconflict⟩
  | .update table assignments condition, _, .update htable hassignments hcondition =>
    ⟨(settled table).asTableRef htable,
      Settled.allExplicit_asExpr (settled_of_mem assignments) hassignments,
      Settled.optionExplicit_asExpr (settled_of_mem_option condition) hcondition⟩
  | .select columns source condition, _, .select hcolumns hsource hcondition =>
    ⟨Settled.allExplicit_asExpr (settled_of_mem columns) hcolumns,
      (settled source).asTableRef hsource,
      Settled.optionExplicit_asExpr (settled_of_mem_option condition) hcondition⟩
  | .withSelect _ inner outer, _, .withSelect hinner houter =>
    ⟨(settled inner).explicit refusesText_toSelect hinner,
      (settled outer).explicit refusesText_toSelect houter⟩

theorem settled_of_mem : ∀ drafts : List Draft, ∀ draft ∈ drafts, draft.Settled
  | [] => List.forall_mem_nil _
  | first :: rest => List.forall_mem_cons.mpr ⟨settled first, settled_of_mem rest⟩

theorem settled_of_mem_option : ∀ found : Option Draft, ∀ draft ∈ found, draft.Settled
  | none => nofun
  | some draft => fun _ hdraft => Option.some.inj hdraft ▸ settled draft

theorem settled_of_mem_fields : ∀ fields : List (String × Draft),
    ∀ entry ∈ fields, Settled entry.2
  | [] => List.forall_mem_nil _
  | (_, value) :: rest => List.forall_mem_cons.mpr ⟨settled value, settled_of_mem_fields rest⟩

theorem rowExplicit_writtenOut : ∀ (rowDraft : RowDraft) {row : List (String × Expr)},
    RowMakes rowDraft row → RowExplicit (writtenOutRow rowDraft)
  | .pairs fields, _, .pairs h =>
    Settled.valuesExplicit (forall₂_writtenOutFields (settled_of_mem_fields fields)) h
  | .mapping fields, _, .mapping _ h =>
    Settled.valuesExplicit
      (forall₂_fieldsOfMapping (forall₂_writtenOutFields (settled_of_mem_fields fields))) h

end

/-- What builds a node is explicit when it is written out. -/
theorem explicit_writtenOut {n : Node} (h : draft.build = .ok n) : draft.writtenOut.Explicit :=
  settled draft _ (toPart_eq_ok_iff.mp (build_eq_ok_iff.mp h))

/-! ## Nothing is left to write out -/

@[simp] theorem asIdentifier_toDraft (i : Identifier) : i.toDraft.asIdentifier = i.toDraft := by
  cases i <;> rfl

@[simp] theorem asExpr_toDraft (e : Expr) : e.toDraft.asExpr = e.toDraft := by
  cases e with
  | column definition => cases definition; rfl
  | _ => rfl

@[simp] theorem asTableRef_toDraft (ref : TableRef) : ref.toDraft.asTableRef = ref.toDraft := rfl

@[simp] theorem map_asExpr_toDrafts (es : List Expr) :
    (Expr.toDrafts es).map asExpr = Expr.toDrafts es := by
  induction es with
  | nil => rw [Expr.toDrafts, List.map_nil]
  | cons first rest ih => rw [Expr.toDrafts, List.map_cons, asExpr_toDraft, ih]

@[simp] theorem writtenOut_identifier (i : Identifier) : i.toDraft.writtenOut = i.toDraft := by
  cases i with
  | name text => rw [Identifier.toDraft, writtenOut]
  | qualified container base => rw [Identifier.toDraft, writtenOut]

mutual

@[simp] theorem writtenOut_expr : ∀ e : Expr, e.toDraft.writtenOut = e.toDraft
  | .literal s => by rw [Expr.toDraft, writtenOut]
  | .ident name => by simp [Expr.toDraft, writtenOut]
  | .binary left operator right => by
    simp [Expr.toDraft, writtenOut, writtenOut_expr left, writtenOut_expr right]
  | .assign field value => by simp [Expr.toDraft, writtenOut, writtenOut_expr value]
  | .references table field onDelete onUpdate => by simp [Expr.toDraft, writtenOut]
  | .column definition => by
    rw [Expr.toDraft]
    exact writtenOut_column definition
  | .tableBody columns => by simp [Expr.toDraft, writtenOut, writtenOuts_columns columns]
  | .addColumn definition ifNotExists => by
    simp [Expr.toDraft, writtenOut, writtenOut_column definition]
  | .dropColumn name => by simp [Expr.toDraft, writtenOut]
  | .addConstraint name body => by simp [Expr.toDraft, writtenOut, writtenOut_expr body]
  | .renameTo newName => by simp [Expr.toDraft, writtenOut]

theorem writtenOut_column : ∀ c : Column, c.toDraft.writtenOut = c.toDraft
  | .define name dataType constraints => by
    simp [Column.toDraft, writtenOut, writtenOuts_exprs constraints]

@[simp] theorem writtenOuts_exprs :
    ∀ es : List Expr, writtenOuts (Expr.toDrafts es) = Expr.toDrafts es
  | [] => by rw [Expr.toDrafts, writtenOuts]
  | first :: rest => by
    rw [Expr.toDrafts, writtenOuts, writtenOut_expr first, writtenOuts_exprs rest]

theorem writtenOuts_columns :
    ∀ cs : List Column, writtenOuts (Column.toDrafts cs) = Column.toDrafts cs
  | [] => by rw [Column.toDrafts, writtenOuts]
  | first :: rest => by
    rw [Column.toDrafts, writtenOuts, writtenOut_column first, writtenOuts_columns rest]

end

/-- An expression that may be absent holds nothing to write out either. -/
@[simp] theorem writtenOutOption_expr (found : Option Expr) :
    (writtenOutOption (found.map Expr.toDraft)).map asExpr = found.map Expr.toDraft := by
  cases found with
  | none => rfl
  | some e => simp [writtenOutOption]

@[simp] theorem writtenOut_tableRef (ref : TableRef) : ref.toDraft.writtenOut = ref.toDraft := by
  simp [TableRef.toDraft, writtenOut]

@[simp] theorem writtenOut_conflict (clause : ConflictClause) :
    clause.toDraft.writtenOut = clause.toDraft := by
  simp [ConflictClause.toDraft, writtenOut]

@[simp] theorem writtenOut_select (query : Select) : query.toDraft.writtenOut = query.toDraft := by
  simp [Select.toDraft, writtenOut]

@[simp] theorem writtenOutRow_rowDraft (row : List (String × Expr)) :
    writtenOutRow (rowDraft row) = rowDraft row := by
  rw [rowDraft, writtenOutRow]
  congr 1
  induction row with
  | nil => rfl
  | cons cell rest ih => simp [writtenOutFields, cellAsExpr, ih]

theorem writtenOut_statement (s : Statement) : s.toDraft.writtenOut = s.toDraft := by
  cases s with
  | insert table row onConflict =>
    cases onConflict with
    | none => simp [Statement.toDraft, writtenOut, writtenOutOption]
    | some clause => simp [Statement.toDraft, writtenOut, writtenOutOption]
  | select query => exact writtenOut_select query
  | _ => simp [Statement.toDraft, writtenOut]

end Draft

theorem Node.writtenOut_toDraft (n : Node) : n.toDraft.writtenOut = n.toDraft := by
  cases n with
  | identifier i => exact Draft.writtenOut_identifier i
  | key k => rw [Node.toDraft, Draft.writtenOut]
  | expr e => exact Draft.writtenOut_expr e
  | tableRef t => exact Draft.writtenOut_tableRef t
  | conflict c => exact Draft.writtenOut_conflict c
  | statement s => exact Draft.writtenOut_statement s

end SchemaMigration
