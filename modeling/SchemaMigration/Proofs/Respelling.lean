import Mathlib.Data.List.Forall2
import SchemaMigration.Proofs.ProvidedKeys
import SchemaMigration.Statement.Render

/-!
# The two spellings of a qualified name

A name with a schema can be written as one text with a dot in it, or as a name with its container.
Both are found in documents, often for the same object. `Identifier.Respelled` relates the first
spelling to the second, and the relations for trees allow the change at any set of places. Only the
name of a column is left alone: the last part of it is the field of a key, and the two spellings
differ in their last part.

Of an identifier a tree shows three things: its text, whether it is written with its schema, and
what it resolves to. The two spellings agree in all three (`Identifier.Respelled.render_eq` and the
two lemmas behind it), so the trees agree in their texts and in their keys
(`Expr.Respelled.looksLike`, `Statement.Respelled.same_text_and_edges`).
-/

namespace SchemaMigration

/-! ## Identifiers -/

/-- The same identifier, or one with a dot in it and the parts around its first dot. -/
inductive Identifier.Respelled : Identifier → Identifier → Prop where
  | same (i : Identifier) : Respelled i i
  | split {text container base : String} (htext : text = container ++ "." ++ base)
      (hcontainer : container ≠ "") (hdot : '.' ∉ container.toList) (hbase : base ≠ "") :
      Respelled (.name text) (.qualified container base)

namespace Identifier

/-- A text with a dot resolves to the parts around its first dot. -/
theorem resolve_joined {container base : String} (hcontainer : container ≠ "")
    (hdot : '.' ∉ container.toList) (hbase : base ≠ "") (target : Target) :
    (name (container ++ "." ++ base)).resolve target = .ok (container, base) := by
  -- The container has no dot, so the first dot of the text is the one that was put in.
  have hsplit : splitAtDot (container ++ "." ++ base).toList =
      some (container.toList, base.toList) := by
    rw [splitAtDot_eq_some_iff]
    exact ⟨by simp, hdot⟩
  refine resolve_name_eq_ok_iff.mpr (.inl ⟨_, _, hsplit, ?_, ?_, ?_⟩)
  · rwa [ne_eq, String.toList_eq_nil_iff]
  · rwa [ne_eq, String.toList_eq_nil_iff]
  · rw [String.ofList_toList, String.ofList_toList]

namespace Respelled

variable {i j : Identifier}

theorem render_eq (h : i.Respelled j) : i.render = j.render := by
  cases h with
  | same => rfl
  | split htext _ _ _ => rw [htext, render, render]

theorem isQualified_eq (h : i.Respelled j) : i.isQualified = j.isQualified := by
  cases h with
  | same => rfl
  | @split text container base htext _ _ _ =>
    have hdotted : '.' ∈ text.toList := by
      rw [htext]
      simp
    exact (isQualified_iff _).mpr (.inr ⟨_, rfl, hdotted⟩)

theorem resolve_eq (h : i.Respelled j) (target : Target) :
    i.resolve target = j.resolve target := by
  cases h with
  | same => rfl
  | split htext hcontainer hdot hbase =>
    rw [htext, resolve_joined hcontainer hdot hbase]
    exact (resolve_qualified_eq_ok_iff.mpr ⟨hcontainer, .inl hbase, rfl⟩).symm

/-- A type needs the same keys in both spellings, whether it is a built-in one or not. -/
theorem requiredAsType_eq (h : i.Respelled j) : i.requiredAsType = j.requiredAsType := by
  unfold requiredAsType
  rw [h.isQualified_eq, h.resolve_eq]

theorem requiredAsReference_eq (h : i.Respelled j) (column : String) :
    i.requiredAsReference column = j.requiredAsReference column := by
  unfold requiredAsReference
  rw [h.resolve_eq]

end Respelled

end Identifier

/-! ## Trees -/

mutual

/-- The same expression, some of its identifiers being spelled in the other way. -/
inductive Expr.Respelled : Expr → Expr → Prop where
  | literal (text : String) : Expr.Respelled (.literal text) (.literal text)
  | ident {i j : Identifier} (h : i.Respelled j) : Expr.Respelled (.ident i) (.ident j)
  | binary {left left' right right' : Expr} (operator : String) (hleft : Expr.Respelled left left')
      (hright : Expr.Respelled right right') :
      Expr.Respelled (.binary left operator right) (.binary left' operator right')
  | assign {field field' : Identifier} {value value' : Expr} (hfield : field.Respelled field')
      (hvalue : Expr.Respelled value value') :
      Expr.Respelled (.assign field value) (.assign field' value')
  | references {table table' : Identifier} (column onDelete onUpdate : String)
      (htable : table.Respelled table') :
      Expr.Respelled (.references table column onDelete onUpdate)
        (.references table' column onDelete onUpdate)
  | column {c c' : Column} (h : Column.Respelled c c') : Expr.Respelled (.column c) (.column c')
  | tableBody {cs cs' : List Column} (h : List.Forall₂ Column.Respelled cs cs') :
      Expr.Respelled (.tableBody cs) (.tableBody cs')
  | addColumn {c c' : Column} (ifNotExists : Bool) (h : Column.Respelled c c') :
      Expr.Respelled (.addColumn c ifNotExists) (.addColumn c' ifNotExists)
  | dropColumn {name name' : Identifier} (h : name.Respelled name') :
      Expr.Respelled (.dropColumn name) (.dropColumn name')
  | addConstraint {name name' : Identifier} {body body' : Expr} (hname : name.Respelled name')
      (hbody : Expr.Respelled body body') :
      Expr.Respelled (.addConstraint name body) (.addConstraint name' body')
  | renameTo {name name' : Identifier} (h : name.Respelled name') :
      Expr.Respelled (.renameTo name) (.renameTo name')

/-- The same column definition. Its type and its constraints may be spelled in the other way, its
name may not. -/
inductive Column.Respelled : Column → Column → Prop where
  | define (name : Identifier) {dataType dataType' : Identifier}
      {constraints constraints' : List Expr} (htype : dataType.Respelled dataType')
      (hconstraints : List.Forall₂ Expr.Respelled constraints constraints') :
      Column.Respelled (.define name dataType constraints) (.define name dataType' constraints')

end

/-- Lists whose members are related one by one have the same images under functions that agree on
related members. -/
theorem map_eq_map_of_forall₂ {α β γ : Type} {R : α → β → Prop} {f : α → γ} {g : β → γ}
    {as : List α} {bs : List β} (h : List.Forall₂ R as bs) (hfg : ∀ a b, R a b → f a = g b) :
    as.map f = bs.map g := by
  induction h with
  | nil => rfl
  | cons hfirst _ ih => rw [List.map_cons, List.map_cons, hfg _ _ hfirst, ih]

/-- Two expressions that are written alike and need the same keys. -/
structure Expr.LooksLike (e e' : Expr) : Prop where
  render_eq : e.render = e'.render
  requires_eq : e.requires = e'.requires

/-- Two column definitions that are written alike, need the same keys and name the same field. -/
structure Column.LooksLike (c c' : Column) : Prop where
  render_eq : c.render = c'.render
  requires_eq : c.requires = c'.requires
  baseName_eq : c.baseName = c'.baseName

theorem Expr.renderList_eq_of_looksLike {es es' : List Expr}
    (h : List.Forall₂ Expr.LooksLike es es') : Expr.renderList es = Expr.renderList es' := by
  rw [Expr.renderList_eq_map, Expr.renderList_eq_map]
  exact map_eq_map_of_forall₂ h fun _ _ => Expr.LooksLike.render_eq

theorem Expr.requiresList_eq_of_looksLike {es es' : List Expr}
    (h : List.Forall₂ Expr.LooksLike es es') : Expr.requiresList es = Expr.requiresList es' := by
  rw [Expr.requiresList_eq_concat, Expr.requiresList_eq_concat]
  exact congrArg _ (map_eq_map_of_forall₂ h fun _ _ => Expr.LooksLike.requires_eq)

theorem Column.renderList_eq_of_looksLike {cs cs' : List Column}
    (h : List.Forall₂ Column.LooksLike cs cs') : Column.renderList cs = Column.renderList cs' := by
  rw [Column.renderList_eq_map, Column.renderList_eq_map]
  exact map_eq_map_of_forall₂ h fun _ _ => Column.LooksLike.render_eq

theorem Column.requiresList_eq_of_looksLike {cs cs' : List Column}
    (h : List.Forall₂ Column.LooksLike cs cs') :
    Column.requiresList cs = Column.requiresList cs' := by
  rw [Column.requiresList_eq_concat, Column.requiresList_eq_concat]
  exact congrArg _ (map_eq_map_of_forall₂ h fun _ _ => Column.LooksLike.requires_eq)

mutual

theorem Expr.Respelled.looksLike : ∀ {e e' : Expr}, e.Respelled e' → e.LooksLike e'
  | .literal _, _, h => by
    cases h
    exact ⟨rfl, rfl⟩
  -- An identifier requires nothing, so only its text is to compare.
  | .ident _, _, h => by
    cases h with
    | ident hname => exact ⟨hname.render_eq, rfl⟩
  | .binary left _ right, _, h => by
    cases h with
    | binary _ hleft hright =>
      have hl := Expr.Respelled.looksLike hleft
      have hr := Expr.Respelled.looksLike hright
      constructor
      · rw [Expr.render, Expr.render, hl.render_eq, hr.render_eq]
      · rw [Expr.requires, Expr.requires, hl.requires_eq, hr.requires_eq]
  | .assign _ value, _, h => by
    cases h with
    | assign hfield hvalue =>
      have hv := Expr.Respelled.looksLike hvalue
      constructor
      · rw [Expr.render, Expr.render, hfield.render_eq, hv.render_eq]
      · rw [Expr.requires, Expr.requires, hv.requires_eq]
  -- The table is the one thing that is respelled here, and it is asked for its text and its key.
  | .references .., _, h => by
    cases h with
    | references _ _ _ htable =>
      constructor
      · rw [Expr.render, Expr.render, htable.render_eq]
      · rw [Expr.requires, Expr.requires, htable.requiredAsReference_eq]
  | .column c, _, h => by
    cases h with
    | column hc =>
      have hlike := Column.Respelled.looksLike hc
      constructor
      · rw [Expr.render, Expr.render, hlike.render_eq]
      · rw [Expr.requires, Expr.requires, hlike.requires_eq]
  | .tableBody cs, _, h => by
    cases h with
    | tableBody hcs =>
      have hlike := Column.looksLike_of_forall₂ hcs
      constructor
      · rw [Expr.render, Expr.render, Column.renderList_eq_of_looksLike hlike]
      · rw [Expr.requires, Expr.requires, Column.requiresList_eq_of_looksLike hlike]
  | .addColumn c _, _, h => by
    cases h with
    | addColumn _ hc =>
      have hlike := Column.Respelled.looksLike hc
      constructor
      · rw [Expr.render, Expr.render, hlike.render_eq]
      · rw [Expr.requires, Expr.requires, hlike.requires_eq]
  | .dropColumn _, _, h => by
    cases h with
    -- Here the two names differ in spelling, but nothing is required of a column that goes.
    | dropColumn hname =>
      constructor
      · rw [Expr.render, Expr.render, hname.render_eq]
      · rfl
  | .addConstraint _ body, _, h => by
    cases h with
    | addConstraint hname hbody =>
      have hb := Expr.Respelled.looksLike hbody
      constructor
      · rw [Expr.render, Expr.render, hname.render_eq, hb.render_eq]
      · rw [Expr.requires, Expr.requires, hb.requires_eq]
  | .renameTo _, _, h => by
    cases h with
    | renameTo hname =>
      constructor
      · rw [Expr.render, Expr.render, hname.render_eq]
      · rfl

theorem Column.Respelled.looksLike : ∀ {c c' : Column}, c.Respelled c' → c.LooksLike c'
  | .define _ _ constraints, _, h => by
    cases h with
    | define _ htype hconstraints =>
      have hlike := Expr.looksLike_of_forall₂ hconstraints
      -- The name of the column is not respelled, so the third part is an identity.
      refine ⟨?_, ?_, rfl⟩
      · rw [Column.render, Column.render, htype.render_eq, Expr.renderList_eq_of_looksLike hlike]
      · rw [Column.requires, Column.requires, htype.requiredAsType_eq,
          Expr.requiresList_eq_of_looksLike hlike]

theorem Expr.looksLike_of_forall₂ : ∀ {es es' : List Expr},
    List.Forall₂ Expr.Respelled es es' → List.Forall₂ Expr.LooksLike es es'
  | [], _, h => by
    cases h
    exact .nil
  | first :: rest, _, h => by
    cases h with
    | cons hfirst hrest =>
      exact .cons (Expr.Respelled.looksLike hfirst) (Expr.looksLike_of_forall₂ hrest)

theorem Column.looksLike_of_forall₂ : ∀ {cs cs' : List Column},
    List.Forall₂ Column.Respelled cs cs' → List.Forall₂ Column.LooksLike cs cs'
  | [], _, h => by
    cases h
    exact .nil
  | first :: rest, _, h => by
    cases h with
    | cons hfirst hrest =>
      exact .cons (Column.Respelled.looksLike hfirst) (Column.looksLike_of_forall₂ hrest)

end

theorem Expr.Respelled.renderList_eq {es es' : List Expr}
    (h : List.Forall₂ Expr.Respelled es es') : Expr.renderList es = Expr.renderList es' :=
  Expr.renderList_eq_of_looksLike (Expr.looksLike_of_forall₂ h)

/-! ## Statements -/

/-- The same table reference, its table being spelled in the one way or the other. -/
structure TableRef.Respelled (ref ref' : TableRef) : Prop where
  table : ref.table.Respelled ref'.table
  shortName_eq : ref.shortName = ref'.shortName

/-- The same conflict clause, some of its identifiers being spelled in the other way. -/
structure ConflictClause.Respelled (clause clause' : ConflictClause) : Prop where
  cause : clause.cause.Respelled clause'.cause
  assignments : List.Forall₂ Expr.Respelled clause.assignments clause'.assignments

/-- The same select, some of its identifiers being spelled in the other way. -/
structure Select.Respelled (query query' : Select) : Prop where
  columns : List.Forall₂ Expr.Respelled query.columns query'.columns
  source : query.source.Respelled query'.source
  condition : Option.Rel Expr.Respelled query.condition query'.condition

/-- The same field with the same value, up to the spelling of names in the value. -/
structure RespelledCell (cell cell' : String × Expr) : Prop where
  field_eq : cell.1 = cell'.1
  value : cell.2.Respelled cell'.2

/-- The same statement, some of its identifiers being spelled in the other way. -/
inductive Statement.Respelled : Statement → Statement → Prop where
  | alter (target : Target) {name name' : Identifier} {action action' : Expr}
      (hname : name.Respelled name') (haction : action.Respelled action') :
      Respelled (.alter target name action) (.alter target name' action')
  | create (target : Target) {name name' : Identifier} {body body' : Option Expr}
      (ifNotExists : Bool) (hname : name.Respelled name')
      (hbody : Option.Rel Expr.Respelled body body') :
      Respelled (.create target name body ifNotExists) (.create target name' body' ifNotExists)
  | drop (target : Target) {name name' : Identifier} (hname : name.Respelled name') :
      Respelled (.drop target name) (.drop target name')
  | insert {table table' : TableRef} {values values' : List (String × Expr)}
      {onConflict onConflict' : Option ConflictClause} (htable : table.Respelled table')
      (hvalues : List.Forall₂ RespelledCell values values')
      (honConflict : Option.Rel ConflictClause.Respelled onConflict onConflict') :
      Respelled (.insert table values onConflict) (.insert table' values' onConflict')
  | update {table table' : TableRef} {assignments assignments' : List Expr}
      {condition condition' : Option Expr} (htable : table.Respelled table')
      (hassignments : List.Forall₂ Expr.Respelled assignments assignments')
      (hcondition : Option.Rel Expr.Respelled condition condition') :
      Respelled (.update table assignments condition) (.update table' assignments' condition')
  | select {query query' : Select} (hquery : query.Respelled query') :
      Respelled (.select query) (.select query')
  | withSelect (name : String) {inner inner' outer outer' : Select}
      (hinner : inner.Respelled inner') (houter : outer.Respelled outer') :
      Respelled (.withSelect name inner outer) (.withSelect name inner' outer')

/-! ### Texts -/

theorem TableRef.Respelled.render_eq {ref ref' : TableRef} (h : ref.Respelled ref') :
    ref.render = ref'.render := by
  rw [TableRef.render, TableRef.render, h.table.render_eq, h.shortName_eq]

theorem ConflictClause.Respelled.render_eq {clause clause' : ConflictClause}
    (h : clause.Respelled clause') : clause.render = clause'.render := by
  rw [ConflictClause.render, ConflictClause.render, h.cause.looksLike.render_eq,
    Expr.Respelled.renderList_eq h.assignments]

/-- An optional part is absent in both spellings, or it has the same text in both. -/
theorem map_eq_map_of_rel {α β γ : Type} {R : α → β → Prop} {f : α → γ} {g : β → γ} {a : Option α}
    {b : Option β} (h : Option.Rel R a b) (hfg : ∀ x y, R x y → f x = g y) :
    a.map f = b.map g := by
  cases h with
  | none => rfl
  | some hsome => rw [Option.map_some, Option.map_some, hfg _ _ hsome]

theorem Expr.Respelled.renderOption_eq {body body' : Option Expr}
    (h : Option.Rel Expr.Respelled body body') : body.map Expr.render = body'.map Expr.render :=
  map_eq_map_of_rel h fun _ _ hbody => hbody.looksLike.render_eq

theorem renderCondition_eq_of_respelled {condition condition' : Option Expr}
    (h : Option.Rel Expr.Respelled condition condition') :
    renderCondition condition = renderCondition condition' := by
  rw [renderCondition, renderCondition, Expr.Respelled.renderOption_eq h]

theorem Select.Respelled.render_eq {query query' : Select} (h : query.Respelled query') :
    query.render = query'.render := by
  rw [Select.render, Select.render, Expr.Respelled.renderList_eq h.columns, h.source.render_eq,
    renderCondition_eq_of_respelled h.condition]

theorem Statement.Respelled.render_eq {s s' : Statement} (h : s.Respelled s') :
    s.render = s'.render := by
  cases h with
  | alter target hname haction =>
    rw [Statement.render, Statement.render, hname.render_eq, haction.looksLike.render_eq]
  -- The body may be absent; where it is there, it has the same text.
  | create target ifNotExists hname hbody =>
    rw [Statement.render, Statement.render, hname.render_eq, Expr.Respelled.renderOption_eq hbody]
  | drop target hname => rw [Statement.render, Statement.render, hname.render_eq]
  -- Table, fields, values and clause are written one by one, each with the same text.
  | insert htable hvalues honConflict =>
    rw [Statement.render, Statement.render, htable.table.render_eq,
      map_eq_map_of_forall₂ hvalues fun _ _ => RespelledCell.field_eq,
      map_eq_map_of_forall₂ hvalues fun _ _ hcell => hcell.value.looksLike.render_eq,
      map_eq_map_of_rel honConflict fun _ _ => ConflictClause.Respelled.render_eq]
  | update htable hassignments hcondition =>
    rw [Statement.render, Statement.render, htable.render_eq,
      Expr.Respelled.renderList_eq hassignments, renderCondition_eq_of_respelled hcondition]
  | select hquery => exact hquery.render_eq
  | withSelect name hinner houter =>
    rw [Statement.render, Statement.render, hinner.render_eq, houter.render_eq]

/-! ### Keys -/

theorem Statement.Respelled.requires_eq {s s' : Statement} (h : s.Respelled s') :
    s.requires = s'.requires := by
  cases h with
  | alter target hname haction => exact haction.looksLike.requires_eq
  | create target ifNotExists hname hbody =>
    -- What a create requires is what its body requires.
    cases hbody with
    | none => rfl
    | some hbody => exact hbody.looksLike.requires_eq
  | drop target hname => rfl
  -- Only the table is required, and it resolves to the same parts.
  | insert htable hvalues honConflict =>
    rw [Statement.requires, Statement.requires, htable.table.resolve_eq]
  | update htable hassignments hcondition =>
    exact Expr.requiresList_eq_of_looksLike (Expr.looksLike_of_forall₂ hassignments)
  | select hquery => rfl
  | withSelect name hinner houter => rfl

theorem Expr.Respelled.keysAsAction_eq {action action' : Expr} (h : action.Respelled action')
    (parts : Identifier.Resolved) : action.keysAsAction parts = action'.keysAsAction parts := by
  cases h with
  | addColumn ifNotExists hcolumn =>
    rw [Expr.keysAsAction, Expr.keysAsAction, hcolumn.looksLike.baseName_eq]
  | _ => rfl

/-- Spelling changes neither the number of the columns of a body nor their names. -/
theorem Expr.Respelled.columnsOfBody_looksLike {body body' : Option Expr}
    (h : Option.Rel Expr.Respelled body body') :
    List.Forall₂ Column.LooksLike (Expr.columnsOfBody body) (Expr.columnsOfBody body') := by
  cases h with
  | none => exact .nil
  | some hbody =>
    -- Only a table body defines columns; in any other body there is none to compare.
    cases hbody with
    | tableBody hcolumns => exact Column.looksLike_of_forall₂ hcolumns
    | _ => exact .nil

theorem Expr.Respelled.columnKeys_eq {body body' : Option Expr}
    (h : Option.Rel Expr.Respelled body body') (parts : Identifier.Resolved) :
    (Expr.columnsOfBody body).map (fun column => ObjectKey.ofField parts column.baseName) =
      (Expr.columnsOfBody body').map fun column => ObjectKey.ofField parts column.baseName :=
  map_eq_map_of_forall₂ (Expr.Respelled.columnsOfBody_looksLike h) fun _ _ hcolumn => by
    rw [hcolumn.baseName_eq]

theorem Statement.Respelled.provides_eq {s s' : Statement} (h : s.Respelled s') :
    s.provides = s'.provides := by
  cases h with
  | alter target hname haction =>
    simp only [Statement.provides_alter, hname.resolve_eq, haction.keysAsAction_eq]
  | create target ifNotExists hname hbody =>
    simp only [Statement.provides_create, hname.resolve_eq, Expr.Respelled.columnKeys_eq hbody]
  | _ => rfl

/-- **The two spellings of a qualified name are interchangeable.** Whatever names are spelled in the
other way, the statement keeps its text, the keys that it requires and those that it provides, or
the error in place of either. -/
theorem Statement.Respelled.same_text_and_edges {s s' : Statement} (h : s.Respelled s') :
    s.render = s'.render ∧ s.requires = s'.requires ∧ s.provides = s'.provides :=
  ⟨h.render_eq, h.requires_eq, h.provides_eq⟩

/-- A foreign key on orders. The table that it refers to has a dot in its name. -/
def buyerKey (orders archive : Identifier) : Statement :=
  .alter .table orders (.addConstraint (.name "app.buyer_fk") (.references archive "id" "" ""))

/-- Two of the three names are spelled in the other way. -/
theorem buyerKey_same_text_and_edges :
    let written := buyerKey (.name "app.orders") (.name "app.users.archive")
    let split := buyerKey (.qualified "app" "orders") (.qualified "app" "users.archive")
    written.Respelled split ∧ written.render = split.render ∧
      written.requires = split.requires ∧ written.provides = split.provides := by
  -- The container has no dot in either of the two changes, though the base of one of them has.
  intro written split
  have horders : (Identifier.name "app.orders").Respelled (.qualified "app" "orders") :=
    .split rfl (by decide) (by decide) (by decide)
  have harchive : (Identifier.name "app.users.archive").Respelled
      (.qualified "app" "users.archive") := .split rfl (by decide) (by decide) (by decide)
  have h : written.Respelled split :=
    .alter .table horders (.addConstraint (.same _) (.references "id" "" "" harchive))
  exact ⟨h, h.same_text_and_edges⟩

/-- The name of a column is no such place: the field is all of the one spelling and the last part of
the other. -/
example :
    let added (name : Identifier) : Statement :=
      .alter .table (.name "app.orders") (.addColumn (.define name (.name "int") []) false)
    (added (.name "o.buyer")).render = (added (.qualified "o" "buyer")).render ∧
      (added (.name "o.buyer")).provides = .ok [⟨"app", "orders", "o.buyer"⟩] ∧
      (added (.qualified "o" "buyer")).provides = .ok [⟨"app", "orders", "buyer"⟩] :=
  ⟨by decide, rfl, rfl⟩

end SchemaMigration
