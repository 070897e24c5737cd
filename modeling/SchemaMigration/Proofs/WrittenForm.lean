import SchemaMigration.Proofs.Containers

/-!
# The document that mirrors a statement, and reading it back

`Statement.toValue` writes a statement field by field, with the names of kinds and the nouns of
targets. Only what the statement does not have is left out; an empty text, an empty list and a flag
that is off are written like anything else, so that none of them is mistaken for an absent key.

Reading goes key by key. Each key of a written mapping gives back the field it was written from, and
by induction over the tree an expression is read back as it was (`Expr.ofValue_toValue`), then a
statement (`Statement.ofValue_toValue`) and a batch (`Batch.ofValue_toValue`). The only trees that
are lost this way have a qualified name without a container, and those are what no document gives:
both directions stand together in `documents_cover_contained_statements`.
-/

namespace SchemaMigration

open Document

/-! ## Mappings -/

namespace Entries

/-- The entries with the given names as their keys. -/
def ofFields (fields : List (String × Value)) : Entries :=
  fields.map fun field => (.text field.1, field.2)

@[simp] theorem get?_ofFields_nil (key : String) : (ofFields []).get? key = none := rfl

@[simp] theorem get?_ofFields_cons (name key : String) (value : Value)
    (rest : List (String × Value)) :
    (ofFields ((name, value) :: rest)).get? key =
      if name = key then some value else (ofFields rest).get? key := by
  simp [ofFields, get?, Value.isText]

end Entries

/-- The mapping of the fields, under a name for its kind. -/
def Document.ofKind (kind : String) (fields : List (String × Value)) : Value :=
  .mapping (Entries.ofFields (("kind", .text kind) :: fields))

/-- A field that is left out when there is nothing to write. -/
def Document.optionalField (key : String) : Option Value → List (String × Value)
  | none => []
  | some value => [(key, value)]

/-! ## The written form -/

/-- A plain name is text, a qualified one a mapping. -/
def Identifier.toValue : Identifier → Value
  | .name text => .text text
  | .qualified container base =>
    .mapping (Entries.ofFields [("container", .text container), ("name", .text base)])

/-- A table is always written with its alias, even if that is empty. -/
def TableRef.toValue (table : TableRef) : Value :=
  .mapping (Entries.ofFields [("table", table.table.toValue), ("alias", .text table.shortName)])

mutual

/-- A literal is its text, and any other expression is a mapping with its kind. -/
def Expr.toValue : Expr → Value
  | .literal text => .text text
  | .ident name => ofKind ExprKind.ident.name [("ident", name.toValue)]
  | .binary left operator right =>
    ofKind ExprKind.binary.name
      [("left", left.toValue), ("operator", .text operator), ("right", right.toValue)]
  | .assign field value =>
    ofKind ExprKind.assign.name [("field", field.toValue), ("value", value.toValue)]
  | .references table column onDelete onUpdate =>
    ofKind ExprKind.references.name
      [("table", table.toValue), ("column", .text column), ("on_delete", .text onDelete),
        ("on_update", .text onUpdate)]
  | .column definition => definition.toValue
  | .tableBody columns =>
    ofKind ExprKind.tableBody.name [("fields", .list (Column.toValues columns))]
  | .addColumn definition ifNotExists =>
    ofKind ExprKind.addColumn.name
      [("field", definition.toValue), ("if_not_exists", .bool ifNotExists)]
  | .dropColumn name => ofKind ExprKind.dropColumn.name [("name", name.toValue)]
  | .addConstraint name body =>
    ofKind ExprKind.addConstraint.name [("name", name.toValue), ("body", body.toValue)]
  | .renameTo newName => ofKind ExprKind.renameTo.name [("new_name", newName.toValue)]

/-- A column definition, with its constraints in order. -/
def Column.toValue : Column → Value
  | .define name dataType constraints =>
    ofKind ExprKind.column.name
      [("name", name.toValue), ("type", dataType.toValue),
        ("constraints", .list (Expr.toValues constraints))]

/-- The written forms of several expressions, in order. -/
def Expr.toValues : List Expr → List Value
  | [] => []
  | first :: rest => first.toValue :: Expr.toValues rest

/-- The written forms of several column definitions, in order. -/
def Column.toValues : List Column → List Value
  | [] => []
  | first :: rest => first.toValue :: Column.toValues rest

end

/-- A conflict clause, with its assignments even if there are none. -/
def ConflictClause.toValue (clause : ConflictClause) : Value :=
  .mapping (Entries.ofFields
    [("cause", clause.cause.toValue), ("set", .list (Expr.toValues clause.assignments))])

/-- A select; its condition is left out if it has none. -/
def Select.toValue (query : Select) : Value :=
  ofKind StatementKind.select.name
    (("columns", .list (Expr.toValues query.columns)) :: ("from", query.source.toValue) ::
      optionalField "where" (query.condition.map Expr.toValue))

/-- A field of a row with its value. -/
def Document.cellToValue (cell : String × Expr) : Value :=
  .mapping (Entries.ofFields [("field", .text cell.1), ("value", cell.2.toValue)])

/-- The document that mirrors a statement field by field. What the statement does not have is left
out; what it has is written even if it is empty or off. -/
def Statement.toValue : Statement → Value
  | .alter target name action =>
    ofKind StatementKind.alter.name
      [("target", .text target.noun), ("name", name.toValue), ("alter", action.toValue)]
  | .create target name body ifNotExists =>
    ofKind StatementKind.create.name
      (("target", .text target.noun) :: ("name", name.toValue) ::
        ("if_not_exists", .bool ifNotExists) ::
        optionalField "create" (body.map Expr.toValue))
  | .drop target name =>
    ofKind StatementKind.drop.name [("target", .text target.noun), ("name", name.toValue)]
  | .insert table values onConflict =>
    ofKind StatementKind.insert.name
      (("table", table.toValue) :: ("values", .list (values.map cellToValue)) ::
        optionalField "on_conflict" (onConflict.map ConflictClause.toValue))
  | .update table assignments condition =>
    ofKind StatementKind.update.name
      (("table", table.toValue) :: ("set", .list (Expr.toValues assignments)) ::
        optionalField "where" (condition.map Expr.toValue))
  | .select query => query.toValue
  | .withSelect name inner outer =>
    ofKind StatementKind.withSelect.name
      [("name", .text name), ("with", inner.toValue), ("select", outer.toValue)]

/-- A batch is the list of its statements. -/
def Batch.toValue (batch : Batch) : Value := .list (batch.map Statement.toValue)

/-! ## Reading names and flags back -/

namespace Document

variable {entries : Entries} {key : String}

/-- A text is read as it stands, even if it is empty. -/
theorem textOrEmpty_of_text {text : String} (h : entries.get? key = some (.text text)) :
    textOrEmpty entries key = .ok text := by
  rw [textOrEmpty, h]
  by_cases hempty : text = ""
  · rw [hempty]
    rfl
  · have htruthy : (Value.text text).isTruthy = true := decide_eq_true hempty
    simp only [htruthy, if_true]
    rfl

/-- A boolean is the flag itself, even if it is off. -/
theorem flag_of_bool {b : Bool} (h : entries.get? key = some (.bool b)) :
    flag entries key = .ok b := by
  have hvalue : optional entries key = some ⟨.bool b, Entries.sizeOf_get?_lt h⟩ :=
    optional_eq_some_iff.mpr ⟨h, rfl⟩
  rw [flag, hvalue]
  rfl

/-- A list under a key is read item by item, even if it has none. -/
theorem ReadsList.of_list {α : Type} {read : Value → Loading α} {items : List Value}
    {results : List α} (h : entries.get? key = some (.list items))
    (hitems : ReadsItems read items results) : ReadsList entries key read results :=
  .present h rfl hitems

end Document

theorem Identifier.isNull_toValue (name : Identifier) : name.toValue.isNull = false := by
  cases name with
  | name text => rfl
  | qualified container base => rfl

/-- Any identifier is read back but one whose container is empty: that would be read as a plain
name. -/
theorem Identifier.ofValue_toValue {name : Identifier} (h : name.Contained) :
    Identifier.ofValue name.toValue = .ok name := by
  cases name with
  | name text => rfl
  | qualified container base =>
    have htruthy : (Value.text container).isTruthy = true := decide_eq_true h
    have hname : Reads (Entries.ofFields [("container", .text container), ("name", .text base)])
        "name" shown base := ⟨.text base, by simp, rfl, rfl⟩
    rw [Identifier.toValue, Identifier.ofValue]
    simp only [Value.content, Loading.bind_eq_ok_iff, Subtype.exists, require_eq_ok_iff,
      exists_reads_iff]
    refine ⟨base, hname, ?_⟩
    -- The container counts as present because it is not empty.
    simp only [Entries.get?_ofFields_cons, if_true, htruthy]
    rfl

/-- A key that holds a written identifier is read as the identifier. -/
theorem Identifier.reads_toValue {entries : Entries} {key : String} {name : Identifier}
    (hget : entries.get? key = some name.toValue) (h : name.Contained) :
    Reads entries key Identifier.ofValue name :=
  ⟨name.toValue, hget, name.isNull_toValue, Identifier.ofValue_toValue h⟩

theorem TableRef.ofValue_toValue {table : TableRef} (h : table.table.Contained) :
    TableRef.ofValue table.toValue = .ok table := by
  rw [TableRef.toValue, TableRef.ofValue]
  have hname := Identifier.ofValue_toValue h
  have halias : textOrEmpty (Entries.ofFields
      [("table", table.table.toValue), ("alias", .text table.shortName)]) "alias" =
      .ok table.shortName := textOrEmpty_of_text (by simp)
  simp only [Value.content, Entries.get?_ofFields_cons, if_true, hname, halias]
  rfl

theorem Target.ofValue_noun (target : Target) :
    Target.ofValue (.text target.noun) = .ok target := by
  cases target <;> rfl

theorem Document.kindText_ofFields {kind : String} (hlower : Text.lower kind = kind)
    (fields : List (String × Value)) :
    kindText (Entries.ofFields (("kind", .text kind) :: fields)) = .ok kind := by
  rw [kindText]
  simp only [Loading.bind_eq_ok_iff, Loading.pure_eq_ok_iff, Subtype.exists, require_eq_ok_iff,
    exists_reads_iff]
  exact ⟨kind, ⟨.text kind, by simp, rfl, rfl⟩, hlower⟩

theorem ExprKind.lower_name (kind : ExprKind) : Text.lower kind.name = kind.name := by
  cases kind <;> rfl

theorem StatementKind.lower_name (kind : StatementKind) : Text.lower kind.name = kind.name := by
  cases kind <;> rfl

/-! ## Reading expressions back -/

theorem Expr.ofValue_ofKind (kind : ExprKind) {fields : List (String × Value)} {e : Expr}
    (h : kind.Spells (Entries.ofFields (("kind", .text kind.name) :: fields)) e) :
    Expr.ofValue (ofKind kind.name fields) = .ok e := by
  rw [Expr.ofValue_mapping_eq_ok_iff rfl]
  exact ⟨kind, kindText_ofFields kind.lower_name fields, h⟩

theorem Column.isNull_toValue (c : Column) : c.toValue.isNull = false := by
  cases c with
  | define name dataType constraints => rfl

theorem Expr.isNull_toValue (e : Expr) : e.toValue.isNull = false := by
  cases e with
  | column definition => exact definition.isNull_toValue
  | _ => rfl

/-- A key that holds a written expression is read as the expression, if that is read back. -/
theorem Expr.reads_toValue {entries : Entries} {key : String} {e : Expr}
    (hget : entries.get? key = some e.toValue) (h : Expr.ofValue e.toValue = .ok e) :
    Reads entries key Expr.ofValue e :=
  ⟨e.toValue, hget, e.isNull_toValue, h⟩

/- The induction follows the tree. At each node the keys of its written form are looked up one by
one: a part that is a tree is read back by induction, and a part that is not is read back as it
stands, even where it is empty. -/
mutual

/-- An expression is read back from its written form. -/
theorem Expr.ofValue_toValue : ∀ e : Expr, e.Contained → Expr.ofValue e.toValue = .ok e
  -- A literal is written as its text, and a text is read as a literal.
  | .literal text, _ => by
    rw [Expr.toValue, Expr.ofValue]
    rfl
  | .ident name, h => by
    rw [Expr.Contained, Expr.identifiers, Identifier.AllContained.singleton_iff] at h
    refine Expr.ofValue_ofKind .ident (.ident ?_)
    exact Identifier.reads_toValue (by simp) h
  | .binary left operator right, h => by
    rw [Expr.Contained, Expr.identifiers, Identifier.AllContained.append_iff] at h
    -- Each part is read back by the hypothesis of the induction, under the key it is written under.
    have hleft := Expr.ofValue_toValue left h.1
    have hright := Expr.ofValue_toValue right h.2
    refine Expr.ofValue_ofKind .binary (.binary ?_ ?_ ?_)
    · exact Expr.reads_toValue (by simp) hleft
    · exact ⟨.text operator, by simp, rfl, rfl⟩
    · exact Expr.reads_toValue (by simp) hright
  | .assign field value, h => by
    rw [Expr.Contained, Expr.identifiers, Identifier.AllContained.cons_iff] at h
    have hvalue := Expr.ofValue_toValue value h.2
    refine Expr.ofValue_ofKind .assign (.assign ?_ ?_)
    · exact Identifier.reads_toValue (by simp) h.1
    · exact Expr.reads_toValue (by simp) hvalue
  | .references table column onDelete onUpdate, h => by
    rw [Expr.Contained, Expr.identifiers, Identifier.AllContained.singleton_iff] at h
    refine Expr.ofValue_ofKind .references (.references ?_ ?_ ?_ ?_)
    · exact Identifier.reads_toValue (by simp) h
    · exact textOrEmpty_of_text (by simp)
    · exact textOrEmpty_of_text (by simp)
    · exact textOrEmpty_of_text (by simp)
  | .column definition, h => by
    rw [Expr.Contained, Expr.identifiers] at h
    -- The written column names its kind, so what is read as a column is read as an expression too.
    have hdefinition := Column.ofValue_toValue definition h
    cases definition with
    | define name dataType constraints =>
      obtain ⟨entries, hcontent, hspelled⟩ := Column.ofValue_eq_ok_iff.mp hdefinition
      cases hcontent
      exact Expr.ofValue_ofKind .column (.column hspelled)
  | .tableBody columns, h => by
    rw [Expr.Contained, Expr.identifiers] at h
    refine Expr.ofValue_ofKind .tableBody (.tableBody ?_)
    exact .of_list (by simp) (Column.readsItems_toValues columns h)
  | .addColumn definition ifNotExists, h => by
    rw [Expr.Contained, Expr.identifiers] at h
    have hdefinition := Column.ofValue_toValue definition h
    refine Expr.ofValue_ofKind .addColumn (.addColumn ?_ ?_)
    -- A column is no optional part, so its value may not be null.
    · exact ⟨definition.toValue, by simp, definition.isNull_toValue, hdefinition⟩
    · exact flag_of_bool (by simp)
  | .dropColumn name, h => by
    rw [Expr.Contained, Expr.identifiers, Identifier.AllContained.singleton_iff] at h
    refine Expr.ofValue_ofKind .dropColumn (.dropColumn ?_)
    exact Identifier.reads_toValue (by simp) h
  | .addConstraint name body, h => by
    rw [Expr.Contained, Expr.identifiers, Identifier.AllContained.cons_iff] at h
    have hbody := Expr.ofValue_toValue body h.2
    refine Expr.ofValue_ofKind .addConstraint (.addConstraint ?_ ?_)
    · exact Identifier.reads_toValue (by simp) h.1
    · exact Expr.reads_toValue (by simp) hbody
  | .renameTo newName, h => by
    rw [Expr.Contained, Expr.identifiers, Identifier.AllContained.singleton_iff] at h
    refine Expr.ofValue_ofKind .renameTo (.renameTo ?_)
    exact Identifier.reads_toValue (by simp) h

/-- A column definition is read back from its written form. -/
theorem Column.ofValue_toValue : ∀ c : Column, c.Contained → Column.ofValue c.toValue = .ok c
  | .define name dataType constraints, h => by
    rw [Column.Contained, Column.identifiers, Identifier.AllContained.cons_iff,
      Identifier.AllContained.cons_iff] at h
    obtain ⟨hname, htype, hconstraints⟩ := h
    refine Column.ofValue_eq_ok_iff.mpr ⟨_, rfl, ?_, ?_, ?_⟩
    · exact Identifier.reads_toValue (by simp) hname
    · exact Identifier.reads_toValue (by simp) htype
    · exact .of_list (by simp) (Expr.readsItems_toValues constraints hconstraints)

theorem Expr.readsItems_toValues : ∀ es : List Expr,
    Identifier.AllContained (Expr.identifiersOfList es) →
      ReadsItems Expr.ofValue (Expr.toValues es) es
  | [], _ => by
    rw [Expr.toValues]
    exact .nil
  | first :: rest, h => by
    rw [Expr.identifiersOfList, Identifier.AllContained.append_iff] at h
    rw [Expr.toValues]
    exact .cons (Expr.ofValue_toValue first h.1) (Expr.readsItems_toValues rest h.2)

theorem Column.readsItems_toValues : ∀ cs : List Column,
    Identifier.AllContained (Column.identifiersOfList cs) →
      ReadsItems Column.ofValue (Column.toValues cs) cs
  | [], _ => by
    rw [Column.toValues]
    exact .nil
  | first :: rest, h => by
    rw [Column.identifiersOfList, Identifier.AllContained.append_iff] at h
    rw [Column.toValues]
    exact .cons (Column.ofValue_toValue first h.1) (Column.readsItems_toValues rest h.2)

end

/-! ## Reading statements back -/

theorem Document.readsOptional_optionalField {α : Type} {entries : Entries} {key : String}
    {read : Value → Loading α} {found : Option α} (toValue : α → Value)
    (h : entries.get? key = found.map toValue)
    (hread : ∀ a, found = some a → (toValue a).isNull = false ∧ read (toValue a) = .ok a) :
    ReadsOptional entries key read found := by
  cases found with
  -- What is not there is left out, so nothing stands under its key.
  | none =>
    refine .absent ?_
    intro value hvalue
    cases h.symm.trans hvalue
  -- What is there is written as no null, so it is read.
  | some a =>
    obtain ⟨hnull, hread⟩ := hread a rfl
    exact .present ⟨toValue a, h, hnull, hread⟩

@[simp] theorem Entries.get?_optionalField (key : String) (found : Option Value) :
    (Entries.ofFields (optionalField key found)).get? key = found := by
  cases found with
  | none => rfl
  | some value => simp [optionalField]

theorem Expr.readsOptional_toValue {entries : Entries} {key : String} {found : Option Expr}
    (h : entries.get? key = found.map Expr.toValue)
    (hfound : Identifier.AllContained (Expr.identifiersOfOption found)) :
    ReadsOptional entries key Expr.ofValue found := by
  refine readsOptional_optionalField Expr.toValue h ?_
  rintro e rfl
  exact ⟨e.isNull_toValue, Expr.ofValue_toValue e hfound⟩

theorem ConflictClause.ofValue_toValue {clause : ConflictClause}
    (h : Identifier.AllContained (ConflictClause.identifiersOfOption (some clause))) :
    conflictOfValue clause.toValue = .ok clause := by
  rw [ConflictClause.identifiersOfOption, Identifier.AllContained.append_iff] at h
  refine conflictOfValue_eq_ok_iff.mpr ⟨_, rfl, ?_, ?_⟩
  · exact Expr.reads_toValue (by simp) (Expr.ofValue_toValue clause.cause h.1)
  · exact .of_list (by simp) (Expr.readsItems_toValues clause.assignments h.2)

theorem Expr.listOfValue_toValues {es : List Expr}
    (h : Identifier.AllContained (Expr.identifiersOfList es)) :
    Expr.listOfValue (.list (Expr.toValues es)) = .ok es :=
  Expr.listOfValue_eq_ok_iff.mpr ⟨_, rfl, Expr.readsItems_toValues es h⟩

/-- The pairs of a row are read back one by one. -/
theorem Document.spellsPairs_cells (row : List (String × Expr)) :
    SpellsPairs (.list (row.map cellToValue))
      (row.map fun cell => (Value.text cell.1, cell.2.toValue)) := by
  refine .list rfl ?_
  rw [List.forall₂_map_left_iff, List.forall₂_map_right_iff, List.forall₂_same]
  rintro ⟨field, e⟩ _
  exact ⟨_, rfl, ⟨.text field, by simp, rfl, rfl⟩, ⟨e.toValue, by simp, e.isNull_toValue, rfl⟩⟩

theorem Document.spellsCells {row : List (String × Expr)}
    (h : Identifier.AllContained (Expr.identifiersOfList (row.map Prod.snd))) :
    List.Forall₂ SpellsCell (row.map fun cell => (Value.text cell.1, cell.2.toValue)) row := by
  rw [Identifier.allContained_exprs_iff] at h
  rw [List.forall₂_map_left_iff, List.forall₂_same]
  intro cell hcell
  exact ⟨rfl, Expr.ofValue_toValue cell.2 (h cell.2 (List.mem_map_of_mem hcell))⟩

theorem Select.ofValue_toValue {query : Select} (h : Identifier.AllContained query.identifiers) :
    Select.ofValue query.toValue = .ok query := by
  rw [Select.identifiers, Identifier.AllContained.append_iff,
    Identifier.AllContained.cons_iff] at h
  obtain ⟨hcolumns, hsource, hcondition⟩ := h
  refine Select.ofValue_eq_ok_iff.mpr ⟨_, rfl, ?_, ?_, ?_⟩
  · exact ⟨.list (Expr.toValues query.columns), by simp, rfl, Expr.listOfValue_toValues hcolumns⟩
  · exact ⟨query.source.toValue, by simp, rfl, TableRef.ofValue_toValue hsource⟩
  · exact Expr.readsOptional_toValue (by simp) hcondition

theorem Statement.ofValue_ofKind (kind : StatementKind) {fields : List (String × Value)}
    {s : Statement}
    (h : kind.Spells (Entries.ofFields (("kind", .text kind.name) :: fields)) s) :
    Statement.ofValue (ofKind kind.name fields) = .ok s :=
  Statement.ofValue_eq_ok_iff.mpr ⟨_, kind, rfl, kindText_ofFields kind.lower_name fields, h⟩

/-- A statement is read back from the document that mirrors it. -/
theorem Statement.ofValue_toValue (s : Statement) (h : s.Contained) :
    Statement.ofValue s.toValue = .ok s := by
  unfold Statement.Contained at h
  cases s with
  | alter target name action =>
    rw [Statement.identifiers, Identifier.AllContained.cons_iff] at h
    refine Statement.ofValue_ofKind .alter (.alter ?_ ?_ ?_)
    · exact ⟨.text target.noun, by simp, rfl, target.ofValue_noun⟩
    · exact Identifier.reads_toValue (by simp) h.1
    · exact Expr.reads_toValue (by simp) (action.ofValue_toValue h.2)
  | create target name body ifNotExists =>
    rw [Statement.identifiers, Identifier.AllContained.cons_iff] at h
    refine Statement.ofValue_ofKind .create (.create ?_ ?_ ?_ ?_)
    · exact ⟨.text target.noun, by simp, rfl, target.ofValue_noun⟩
    · exact Identifier.reads_toValue (by simp) h.1
    · exact Expr.readsOptional_toValue (by simp) h.2
    · exact flag_of_bool (by simp)
  | drop target name =>
    rw [Statement.identifiers, Identifier.AllContained.singleton_iff] at h
    refine Statement.ofValue_ofKind .drop (.drop ?_ ?_)
    · exact ⟨.text target.noun, by simp, rfl, target.ofValue_noun⟩
    · exact Identifier.reads_toValue (by simp) h
  | insert table row onConflict =>
    rw [Statement.identifiers, Identifier.AllContained.append_iff,
      Identifier.AllContained.cons_iff] at h
    obtain ⟨⟨htable, hrow⟩, hconflict⟩ := h
    -- The cells are written as a list of pairs, each of which is a record of its own.
    refine Statement.ofValue_ofKind .insert (.insert ?_ (spellsCells hrow) ?_ ?_)
    · exact ⟨.list (row.map cellToValue), by simp, rfl,
        pairsOfValue_eq_ok_iff.mpr (spellsPairs_cells row)⟩
    -- Only a clause that is there is written, and then it is read back.
    · refine readsOptional_optionalField ConflictClause.toValue (by simp) ?_
      rintro clause rfl
      exact ⟨rfl, ConflictClause.ofValue_toValue hconflict⟩
    · exact ⟨table.toValue, by simp, rfl, TableRef.ofValue_toValue htable⟩
  | update table assignments condition =>
    rw [Statement.identifiers, Identifier.AllContained.append_iff,
      Identifier.AllContained.cons_iff] at h
    obtain ⟨⟨htable, hassignments⟩, hcondition⟩ := h
    refine Statement.ofValue_ofKind .update (.update ?_ ?_ ?_)
    · exact ⟨table.toValue, by simp, rfl, TableRef.ofValue_toValue htable⟩
    · exact ⟨.list (Expr.toValues assignments), by simp, rfl,
        Expr.listOfValue_toValues hassignments⟩
    · exact Expr.readsOptional_toValue (by simp) hcondition
  | select query =>
    -- A query as a statement is written with its kind, which the reader of queries ignores.
    obtain ⟨entries, hcontent, hspelled⟩ :=
      Select.ofValue_eq_ok_iff.mp (Select.ofValue_toValue h)
    cases hcontent
    exact Statement.ofValue_ofKind .select (.select hspelled)
  | withSelect name inner outer =>
    rw [Statement.identifiers, Identifier.AllContained.append_iff] at h
    refine Statement.ofValue_ofKind .withSelect (.withSelect ?_ ?_ ?_)
    · exact ⟨.text name, by simp, rfl, rfl⟩
    · exact ⟨inner.toValue, by simp, rfl, Select.ofValue_toValue h.1⟩
    · exact ⟨outer.toValue, by simp, rfl, Select.ofValue_toValue h.2⟩

/-- A batch is read back from the list of its statements, and as well from a mapping that holds
the list. -/
theorem Batch.ofValue_toValue (batch : Batch) (h : ∀ s ∈ batch, s.Contained) :
    Batch.ofValue batch.toValue = .ok batch ∧
      Batch.ofValue (.mapping (Entries.ofFields [("statements", batch.toValue)])) = .ok batch := by
  -- Each item of the list is a written statement of the batch.
  have hitems : ReadsItems Statement.ofValue (batch.map Statement.toValue) batch := by
    rw [ReadsItems, List.forall₂_map_left_iff, List.forall₂_same]
    intro s hs
    exact s.ofValue_toValue (h s hs)
  constructor
  · -- A list is read as it stands.
    exact Batch.ofValue_eq_ok_iff.mpr ⟨batch.map Statement.toValue, rfl, hitems⟩
  · -- A mapping is read for the list under its one key.
    refine Batch.ofValue_eq_ok_iff.mpr ⟨batch.map Statement.toValue, ?_, hitems⟩
    have hget : (Entries.ofFields [("statements", batch.toValue)]).get? "statements" =
        some batch.toValue := by simp
    rw [batchItems]
    simp only [Value.content]
    rw [Loading.bind_eq_ok_iff]
    exact ⟨⟨batch.toValue, Entries.sizeOf_get?_lt hget⟩, require_eq_ok_iff.mpr ⟨hget, rfl⟩, rfl⟩

/-! ## Both directions -/

/-- **Documents and statements.** Every contained statement is read back from the document that
mirrors it, and nothing that is not contained is ever read; the same holds of batches. -/
theorem documents_cover_contained_statements :
    (∀ s : Statement, s.Contained → Statement.ofValue s.toValue = .ok s) ∧
    (∀ value s, Statement.ofValue value = .ok s → s.Contained) ∧
    (∀ batch : Batch, (∀ s ∈ batch, s.Contained) →
      Batch.ofValue batch.toValue = .ok batch ∧
        Batch.ofValue (.mapping (Entries.ofFields [("statements", batch.toValue)])) =
          .ok batch) ∧
    (∀ value batch, Batch.ofValue value = .ok batch → ∀ s ∈ batch, s.Contained) := by
  refine ⟨?_, ?_, ?_, ?_⟩
  · exact Statement.ofValue_toValue
  · intro value s h
    exact Statement.contained_of_ofValue h
  · exact Batch.ofValue_toValue
  · intro value batch h
    exact Batch.contained_of_ofValue h

/-- A table with a column of a type from its own schema, and a row for it. Everything that can be
empty is empty. -/
def invoices : Batch :=
  [.create .table (.qualified "billing" "invoices")
      (some (.tableBody [.define (.name "") (.qualified "billing" "amount")
        [.references (.name "") "" "" "", .literal ""]])) false,
    .insert ⟨.name "billing.invoices", ""⟩ [("", .literal "")] (some ⟨.literal "", []⟩)]

/-- A drop whose table is written with an empty container. -/
def dropOfUsers : Value :=
  .mapping (Entries.ofFields [("kind", .text "Drop"), ("target", .text "TABLE"),
    ("name", .mapping (Entries.ofFields [("name", .text "users"), ("container", .text "")]))])

theorem documents_cover_invoices :
    (∀ s ∈ invoices, Statement.ofValue s.toValue = .ok s) ∧
    Batch.ofValue invoices.toValue = .ok invoices ∧
    (∀ s ∈ invoices, s.Contained) ∧
    Statement.ofValue dropOfUsers = .ok (.drop .table (.name "users")) ∧
    Statement.Contained (.drop .table (.name "users")) := by
  obtain ⟨hread, hcontained, hreadBatch, hcontainedBatch⟩ := documents_cover_contained_statements
  have hinvoices : ∀ s ∈ invoices, s.Contained := by decide
  have hbatch := (hreadBatch invoices hinvoices).1
  have hdrop : Statement.ofValue dropOfUsers = .ok (.drop .table (.name "users")) := rfl
  exact ⟨fun s hs => hread s (hinvoices s hs), hbatch, hcontainedBatch _ _ hbatch, hdrop,
    hcontained _ _ hdrop⟩

end SchemaMigration
