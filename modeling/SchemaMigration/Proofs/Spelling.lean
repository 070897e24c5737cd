import SchemaMigration.Proofs.Reading

/-!
# How expressions, columns and statements are spelled in documents

The entries of a mapping spell an expression of a kind when the keys of that kind are there and read
as its parts. `ExprKind.Spells` and `StatementKind.Spells` have one case for each kind, with the
keys that the kind has, and say nothing about the order in which they are read. The readers accept
just what is spelled: a mapping as an expression (`Expr.ofEntries_eq_ok_iff`), as a column
definition (`Column.ofEntries_eq_ok_iff`) or as a statement (`Statement.ofValue_eq_ok_iff`), and a
list of statements as a batch (`Batch.ofValue_eq_ok_iff`).
-/

namespace SchemaMigration

open Document

/-! ## Expressions -/

theorem Expr.ofItems_eq_readItems (i : Nat) (items : List Value) :
    Expr.ofItems i items = readItems .index Expr.ofValue i items :=
  eq_readItems (fun _ => by rw [Expr.ofItems]) (fun _ _ _ => by rw [Expr.ofItems]) i items

theorem Expr.ofItems_eq_ok_iff {i : Nat} {items : List Value} {es : List Expr} :
    Expr.ofItems i items = .ok es ↔ ReadsItems Expr.ofValue items es := by
  rw [Expr.ofItems_eq_readItems, readItems_eq_ok_iff]

theorem Column.ofItems_eq_readItems (i : Nat) (items : List Value) :
    Column.ofItems i items = readItems .index Column.ofValue i items :=
  eq_readItems (fun _ => by rw [Column.ofItems]) (fun _ _ _ => by rw [Column.ofItems]) i items

theorem Column.ofItems_eq_ok_iff {i : Nat} {items : List Value} {cs : List Column} :
    Column.ofItems i items = .ok cs ↔ ReadsItems Column.ofValue items cs := by
  rw [Column.ofItems_eq_readItems, readItems_eq_ok_iff]

theorem Document.identifierAt_eq_ok_iff {entries : Entries} {key : String} {name : Identifier} :
    identifierAt entries key = .ok name ↔ Reads entries key Identifier.ofValue name := by
  rw [identifierAt, require_under_eq_ok_iff]

/-- What the entries of a mapping say when they are read as a column definition. -/
def Column.Spelled (entries : Entries) : Column → Prop
  | .define name dataType constraints =>
    Reads entries "name" Identifier.ofValue name ∧
      Reads entries "type" Identifier.ofValue dataType ∧
      ReadsList entries "constraints" Expr.ofValue constraints

/-- What the entries of a mapping say when they are read as an expression of a kind. -/
inductive ExprKind.Spells (entries : Entries) : ExprKind → Expr → Prop where
  | literal {text : String} (htext : Reads entries "text" shown text) :
      Spells entries .literal (.literal text)
  | ident {name : Identifier} (hname : Reads entries "ident" Identifier.ofValue name) :
      Spells entries .ident (.ident name)
  | binary {left right : Expr} {operator : String} (hleft : Reads entries "left" Expr.ofValue left)
      (hoperator : Reads entries "operator" shown operator)
      (hright : Reads entries "right" Expr.ofValue right) :
      Spells entries .binary (.binary left operator right)
  | assign {field : Identifier} {value : Expr}
      (hfield : Reads entries "field" Identifier.ofValue field)
      (hvalue : Reads entries "value" Expr.ofValue value) :
      Spells entries .assign (.assign field value)
  | references {table : Identifier} {column onDelete onUpdate : String}
      (htable : Reads entries "table" Identifier.ofValue table)
      (hcolumn : textOrEmpty entries "column" = .ok column)
      (honDelete : textOrEmpty entries "on_delete" = .ok onDelete)
      (honUpdate : textOrEmpty entries "on_update" = .ok onUpdate) :
      Spells entries .references (.references table column onDelete onUpdate)
  | column {definition : Column} (hdefinition : definition.Spelled entries) :
      Spells entries .column (.column definition)
  | tableBody {columns : List Column}
      (hfields : ReadsList entries "fields" Column.ofValue columns) :
      Spells entries .tableBody (.tableBody columns)
  | addColumn {definition : Column} {ifNotExists : Bool}
      (hfield : Reads entries "field" Column.ofValue definition)
      (hflag : flag entries "if_not_exists" = .ok ifNotExists) :
      Spells entries .addColumn (.addColumn definition ifNotExists)
  | dropColumn {name : Identifier} (hname : Reads entries "name" Identifier.ofValue name) :
      Spells entries .dropColumn (.dropColumn name)
  | addConstraint {name : Identifier} {body : Expr}
      (hname : Reads entries "name" Identifier.ofValue name)
      (hbody : Reads entries "body" Expr.ofValue body) :
      Spells entries .addConstraint (.addConstraint name body)
  | renameTo {newName : Identifier} (hname : Reads entries "new_name" Identifier.ofValue newName) :
      Spells entries .renameTo (.renameTo newName)

/-- A mapping is read as a column definition when its keys spell one. -/
theorem Column.ofEntries_eq_ok_iff {entries : Entries} {c : Column} :
    Column.ofEntries entries = .ok c ↔ c.Spelled entries := by
  rw [Column.ofEntries]
  -- What the reader does, as one statement: each key is there and its value is read as the part.
  simp only [Loading.bind_eq_ok_iff, Loading.pure_eq_ok_iff, Loading.under_eq_ok_iff,
    Option.exists, Subtype.exists, optionalList_eq_ok_none_iff, optionalList_eq_ok_some_iff,
    Expr.ofItems_eq_ok_iff, identifierAt_eq_ok_iff]
  constructor
  -- The constraints may be missing, and then the list of them is empty.
  · rintro ⟨name, hname, dataType, htype, h⟩
    obtain ⟨constraints, hconstraints, rfl⟩ :=
      (exists_readsList_iff fun constraints => Column.define name dataType constraints = c).mp h
    exact ⟨hname, htype, hconstraints⟩
  · intro h
    cases c with
    | define name dataType constraints =>
      exact ⟨name, h.1, dataType, h.2.1,
        (exists_readsList_iff fun found => Column.define name dataType found = _).mpr
          ⟨constraints, h.2.2, rfl⟩⟩

/-- A mapping of a kind is read as an expression when its keys spell one of that kind. -/
theorem Expr.ofEntries_eq_ok_iff {entries : Entries} {kind : ExprKind} {e : Expr} :
    Expr.ofEntries entries kind = .ok e ↔ kind.Spells entries e := by
  -- What each kind reads, as one statement for each: the keys in the order of reading.
  cases kind <;> rw [Expr.ofEntries] <;>
    simp only [Loading.bind_eq_ok_iff, Loading.pure_eq_ok_iff, Loading.under_eq_ok_iff,
      Option.exists, Subtype.exists, optionalList_eq_ok_none_iff, optionalList_eq_ok_some_iff,
      Column.ofItems_eq_ok_iff, Column.ofEntries_eq_ok_iff, require_eq_ok_iff, exists_reads_iff,
      identifierAt_eq_ok_iff]
  case literal =>
    -- One way the parts are given in the order of reading, the other way by the kind's own case.
    constructor
    · rintro ⟨text, htext, rfl⟩
      exact .literal htext
    · intro h
      cases h with
      | literal htext => exact ⟨_, htext, rfl⟩
  case ident =>
    constructor
    · rintro ⟨name, hname, rfl⟩
      exact .ident hname
    · intro h
      cases h with
      | ident hname => exact ⟨_, hname, rfl⟩
  case binary =>
    constructor
    · rintro ⟨left, hleft, operator, hoperator, right, hright, rfl⟩
      exact .binary hleft hoperator hright
    · intro h
      cases h with
      | binary hleft hoperator hright => exact ⟨_, hleft, _, hoperator, _, hright, rfl⟩
  case assign =>
    constructor
    · rintro ⟨field, hfield, value, hvalue, rfl⟩
      exact .assign hfield hvalue
    · intro h
      cases h with
      | assign hfield hvalue => exact ⟨_, hfield, _, hvalue, rfl⟩
  case references =>
    constructor
    · rintro ⟨table, htable, column, hcolumn, onDelete, honDelete, onUpdate, honUpdate, rfl⟩
      exact .references htable hcolumn honDelete honUpdate
    · intro h
      cases h with
      | references htable hcolumn honDelete honUpdate =>
        exact ⟨_, htable, _, hcolumn, _, honDelete, _, honUpdate, rfl⟩
  case column =>
    constructor
    · rintro ⟨definition, hdefinition, rfl⟩
      exact .column hdefinition
    · intro h
      cases h with
      | column hdefinition => exact ⟨_, hdefinition, rfl⟩
  case tableBody =>
    -- The list of columns may be missing, and then the table body has none.
    rw [exists_readsList_iff fun columns => Expr.tableBody columns = e]
    constructor
    · rintro ⟨columns, hfields, rfl⟩
      exact .tableBody hfields
    · intro h
      cases h with
      | tableBody hfields => exact ⟨_, hfields, rfl⟩
  case addColumn =>
    constructor
    · rintro ⟨definition, hfield, ifNotExists, hflag, rfl⟩
      exact .addColumn hfield hflag
    · intro h
      cases h with
      | addColumn hfield hflag => exact ⟨_, hfield, _, hflag, rfl⟩
  case dropColumn =>
    constructor
    · rintro ⟨name, hname, rfl⟩
      exact .dropColumn hname
    · intro h
      cases h with
      | dropColumn hname => exact ⟨_, hname, rfl⟩
  case addConstraint =>
    constructor
    · rintro ⟨name, hname, body, hbody, rfl⟩
      exact .addConstraint hname hbody
    · intro h
      cases h with
      | addConstraint hname hbody => exact ⟨_, hname, _, hbody, rfl⟩
  case renameTo =>
    constructor
    · rintro ⟨newName, hname, rfl⟩
      exact .renameTo hname
    · intro h
      cases h with
      | renameTo hname => exact ⟨_, hname, rfl⟩

theorem ExprKind.ofName?_eq_some_iff {text : String} {kind : ExprKind} :
    ofName? text = some kind ↔ kind.name = text := by
  constructor
  · intro h
    simpa using List.find?_some h
  · rintro rfl
    exact ofName?_name kind

/-- A mapping is read as an expression when it names a kind and its keys spell an expression of that
kind. -/
theorem Expr.ofValue_mapping_eq_ok_iff {value : Value} {entries : Entries} {e : Expr}
    (hcontent : value.content = .mapping entries) :
    Expr.ofValue value = .ok e ↔
      ∃ kind : ExprKind, kindText entries = .ok kind.name ∧ kind.Spells entries e := by
  rw [Expr.ofValue]
  -- Of the shapes of a value only the mapping agrees with its content.
  split <;> rename_i hother <;> rw [hcontent] at hother
  any_goals cases hother
  · -- The text under the kind is the name of a kind, or the mapping is refused.
    rw [Loading.bind_eq_ok_iff]
    constructor
    · rintro ⟨text, htext, h⟩
      split at h
      · next kind hkind =>
        rw [← ExprKind.ofName?_eq_some_iff.mp hkind] at htext
        exact ⟨kind, htext, Expr.ofEntries_eq_ok_iff.mp h⟩
      · cases h
    · rintro ⟨kind, hkind, h⟩
      refine ⟨kind.name, hkind, ?_⟩
      rw [ExprKind.ofName?_name]
      exact Expr.ofEntries_eq_ok_iff.mpr h
  · exact absurd rfl (hother entries)

/-- What is read as an expression is a mapping that spells one, or else it is a literal. -/
theorem Expr.eq_literal_of_ofValue {value : Value} {e : Expr} (h : Expr.ofValue value = .ok e) :
    (∃ text, e = .literal text) ∨ ∃ entries, value.content = .mapping entries := by
  rw [Expr.ofValue] at h
  split at h
  · -- All shapes that are shown as a text come first.
    cases h; exact .inl ⟨_, rfl⟩
  · cases h; exact .inl ⟨_, rfl⟩
  · cases h; exact .inl ⟨_, rfl⟩
  · obtain ⟨text, _, h⟩ := Loading.bind_eq_ok_iff.mp h
    cases h; exact .inl ⟨_, rfl⟩
  · cases h; exact .inl ⟨_, rfl⟩
  · -- Only a mapping goes on to the reader of kinds, and any other shape is refused.
    next entries hcontent => exact .inr ⟨entries, hcontent⟩
  · cases h

theorem Column.ofValue_eq_ofMapping (value : Value) :
    Column.ofValue value = ofMapping .columnNotMapping Column.ofEntries value := by
  rw [Column.ofValue, ofMapping]
  split
  · next entries hcontent => simp only [hcontent]
  · next hother =>
    split
    · next entries hcontent => exact absurd hcontent (hother entries)
    · rfl

theorem Column.ofValue_eq_ok_iff {value : Value} {c : Column} :
    Column.ofValue value = .ok c ↔
      ∃ entries, value.content = .mapping entries ∧ c.Spelled entries := by
  simp only [Column.ofValue_eq_ofMapping, ofMapping_eq_ok_iff, Column.ofEntries_eq_ok_iff]

/-! ## Parts of statements -/

namespace Document

theorem targetAt_eq_ok_iff {entries : Entries} {target : Target} :
    targetAt entries = .ok target ↔ Reads entries "target" Target.ofValue target := by
  rw [targetAt, require_under_eq_ok_iff]

theorem tableAt_eq_ok_iff {entries : Entries} {key : String} {table : TableRef} :
    tableAt entries key = .ok table ↔ Reads entries key TableRef.ofValue table := by
  rw [tableAt, require_under_eq_ok_iff]

theorem exprListAt_eq_ok_iff {entries : Entries} {key : String} {es : List Expr} :
    exprListAt entries key = .ok es ↔ Reads entries key Expr.listOfValue es := by
  rw [exprListAt, require_under_eq_ok_iff]

end Document

theorem Expr.listOfValue_eq_ok_iff {value : Value} {es : List Expr} :
    Expr.listOfValue value = .ok es ↔
      ∃ items, value.content = .list items ∧ ReadsItems Expr.ofValue items es := by
  rw [Expr.listOfValue]
  split
  · -- The reader has the items in hand, so the two lists are one.
    next items hcontent =>
    rw [Expr.ofItems_eq_ok_iff]
    constructor
    · intro h
      exact ⟨items, hcontent, h⟩
    · rintro ⟨items', hcontent', h⟩
      rwa [Value.list.inj (hcontent.symm.trans hcontent')]
  · -- No other value has items.
    next hcontent =>
    refine iff_of_false nofun ?_
    rintro ⟨items, hlist, _⟩
    exact hcontent items hlist

theorem Document.optionalExprAt_eq_ok_iff {entries : Entries} {key : String}
    {found : Option Expr} :
    optionalExprAt entries key = .ok found ↔ ReadsOptional entries key Expr.ofValue found := by
  rw [optionalExprAt]
  exact optional_bind_eq_ok_iff

namespace Document

/-- A field and its value, as one pair of a list writes them. -/
def SpellsPair (item : Value) (pair : Value × Value) : Prop :=
  ∃ entries, item.content = .mapping entries ∧ Reads entries "field" .ok pair.1 ∧
    Reads entries "value" .ok pair.2

/-- The name of a field and the expression of its value. -/
def SpellsCell (pair : Value × Value) (cell : String × Expr) : Prop :=
  shown pair.1 = .ok cell.1 ∧ Expr.ofValue pair.2 = .ok cell.2

/-- The fields and values of an insert are the entries of a mapping, or they are listed in pairs. -/
inductive SpellsPairs (value : Value) : Entries → Prop where
  | mapping {entries : Entries} (hcontent : value.content = .mapping entries) :
      SpellsPairs value entries
  | list {items : List Value} {pairs : Entries} (hcontent : value.content = .list items)
      (hpairs : List.Forall₂ SpellsPair items pairs) : SpellsPairs value pairs

theorem pairsOfItems_eq_ok_iff {i : Nat} {items : List Value} {pairs : Entries} :
    pairsOfItems i items = .ok pairs ↔ List.Forall₂ SpellsPair items pairs := by
  induction items generalizing i pairs with
  | nil => rw [pairsOfItems, List.forall₂_nil_left_iff, Except.ok.injEq, eq_comm]
  | cons item rest ih =>
    rw [pairsOfItems, List.forall₂_cons_left_iff]
    split
    · -- An item that is a mapping gives a pair if both keys are there with a value.
      next entries hcontent =>
      simp only [Loading.bind_eq_ok_iff, Loading.under_eq_ok_iff, Loading.pure_eq_ok_iff, ih,
        Subtype.exists, require_eq_ok_iff]
      constructor
      · rintro ⟨field, _, hfield, value, _, hvalue, others, hothers, rfl⟩
        exact ⟨(field, value), others, ⟨entries, hcontent, ⟨field, hfield.1, hfield.2, rfl⟩,
          ⟨value, hvalue.1, hvalue.2, rfl⟩⟩, hothers, rfl⟩
      · rintro ⟨pair, others, ⟨entries', hcontent', hfield, hvalue⟩, hothers, rfl⟩
        obtain rfl := Value.mapping.inj (hcontent.symm.trans hcontent')
        obtain ⟨field, hget, hnull, hpair⟩ := hfield
        obtain ⟨value, hget', hnull', hpair'⟩ := hvalue
        cases hpair
        cases hpair'
        exact ⟨_, Entries.sizeOf_get?_lt hget, ⟨hget, hnull⟩, _, Entries.sizeOf_get?_lt hget',
          ⟨hget', hnull'⟩, others, hothers, rfl⟩
    · -- Any other item is refused, and it spells no pair.
      next hcontent =>
      refine iff_of_false nofun ?_
      rintro ⟨pair, others, ⟨entries, hmapping, _⟩, _⟩
      exact hcontent entries hmapping

theorem pairsOfValue_eq_ok_iff {value : Value} {pairs : Entries} :
    pairsOfValue value = .ok pairs ↔ SpellsPairs value pairs := by
  rw [pairsOfValue]
  split
  · -- As a mapping the value is its own pairs.
    next entries hcontent =>
    rw [Except.ok.injEq]
    constructor
    · rintro rfl
      exact .mapping hcontent
    · intro h
      cases h with
      | mapping hcontent' => exact Value.mapping.inj (hcontent.symm.trans hcontent')
      | list hcontent' _ => cases hcontent.symm.trans hcontent'
  · -- As a list its items spell them one by one.
    next items hcontent =>
    rw [pairsOfItems_eq_ok_iff]
    constructor
    · exact .list hcontent
    · intro h
      cases h with
      | mapping hcontent' => cases hcontent.symm.trans hcontent'
      | list hcontent' hpairs => rwa [Value.list.inj (hcontent.symm.trans hcontent')]
  · -- Any other value spells no pairs at all.
    next hmapping hlist =>
    refine iff_of_false nofun ?_
    intro h
    cases h with
    | mapping hcontent => exact hmapping _ hcontent
    | list hcontent _ => exact hlist _ hcontent

theorem rowOfPairs_eq_ok_iff {entries : Entries} {row : List (String × Expr)} :
    rowOfPairs entries = .ok row ↔ List.Forall₂ SpellsCell entries row := by
  induction entries generalizing row with
  | nil => rw [rowOfPairs, List.forall₂_nil_left_iff, Except.ok.injEq, eq_comm]
  | cons entry rest ih =>
    -- The field is read before its value, and the first cell before the others.
    obtain ⟨field, value⟩ := entry
    rw [rowOfPairs, List.forall₂_cons_left_iff]
    simp only [Loading.bind_eq_ok_iff, Loading.under_eq_ok_iff, Loading.pure_eq_ok_iff, ih]
    constructor
    · rintro ⟨name, hname, expr, hexpr, cells, hcells, rfl⟩
      exact ⟨(name, expr), cells, ⟨hname, hexpr⟩, hcells, rfl⟩
    · rintro ⟨cell, cells, ⟨hname, hexpr⟩, hcells, rfl⟩
      exact ⟨cell.1, hname, cell.2, hexpr, cells, hcells, rfl⟩

/-- A conflict clause: its cause, and its assignments if there are any. -/
theorem conflictOfValue_eq_ok_iff {value : Value} {clause : ConflictClause} :
    conflictOfValue value = .ok clause ↔
      ∃ entries, value.content = .mapping entries ∧
        Reads entries "cause" Expr.ofValue clause.cause ∧
        ReadsList entries "set" Expr.ofValue clause.assignments := by
  show ofMapping .conflictNotMapping _ value = _ ↔ _
  rw [ofMapping_eq_ok_iff]
  simp only [Loading.bind_eq_ok_iff, Loading.under_eq_ok_iff, Loading.pure_eq_ok_iff,
    Subtype.exists, Option.exists, require_eq_ok_iff, exists_reads_iff,
    optionalList_eq_ok_none_iff, optionalList_eq_ok_some_iff, Expr.ofItems_eq_ok_iff]
  constructor
  -- The assignments may be missing, and then there are none.
  · rintro ⟨entries, hcontent, cause, hcause, h⟩
    obtain ⟨assignments, hassignments, rfl⟩ :=
      (exists_readsList_iff fun found => ConflictClause.mk cause found = clause).mp h
    exact ⟨entries, hcontent, hcause, hassignments⟩
  · rintro ⟨entries, hcontent, hcause, hassignments⟩
    exact ⟨entries, hcontent, clause.cause, hcause,
      (exists_readsList_iff fun found => ConflictClause.mk clause.cause found = clause).mpr
        ⟨clause.assignments, hassignments, rfl⟩⟩

theorem conflictAt_eq_ok_iff {entries : Entries} {found : Option ConflictClause} :
    conflictAt entries = .ok found ↔
      ReadsOptional entries "on_conflict" conflictOfValue found := by
  rw [conflictAt]
  exact optional_bind_eq_ok_iff

end Document

/-! ## Statements -/

/-- What the entries of a mapping say when they are read as a select. -/
structure Select.Spelled (entries : Entries) (query : Select) : Prop where
  columns : Reads entries "columns" Expr.listOfValue query.columns
  source : Reads entries "from" TableRef.ofValue query.source
  condition : ReadsOptional entries "where" Expr.ofValue query.condition

/-- The embedded select that a value writes. -/
def Select.ofValue : Value → Loading Select :=
  ofMapping .selectNotMapping Select.ofEntries

/-- What the entries of a mapping say when they are read as a statement of a kind. -/
inductive StatementKind.Spells (entries : Entries) : StatementKind → Statement → Prop where
  | alter {target : Target} {name : Identifier} {action : Expr}
      (htarget : Reads entries "target" Target.ofValue target)
      (hname : Reads entries "name" Identifier.ofValue name)
      (haction : Reads entries "alter" Expr.ofValue action) :
      Spells entries .alter (.alter target name action)
  | create {target : Target} {name : Identifier} {body : Option Expr} {ifNotExists : Bool}
      (htarget : Reads entries "target" Target.ofValue target)
      (hname : Reads entries "name" Identifier.ofValue name)
      (hbody : ReadsOptional entries "create" Expr.ofValue body)
      (hflag : flag entries "if_not_exists" = .ok ifNotExists) :
      Spells entries .create (.create target name body ifNotExists)
  | drop {target : Target} {name : Identifier}
      (htarget : Reads entries "target" Target.ofValue target)
      (hname : Reads entries "name" Identifier.ofValue name) :
      Spells entries .drop (.drop target name)
  | insert {table : TableRef} {pairs : Entries} {row : List (String × Expr)}
      {onConflict : Option ConflictClause}
      (hpairs : Reads entries "values" pairsOfValue pairs)
      (hrow : List.Forall₂ SpellsCell pairs row)
      (hconflict : ReadsOptional entries "on_conflict" conflictOfValue onConflict)
      (htable : Reads entries "table" TableRef.ofValue table) :
      Spells entries .insert (.insert table row onConflict)
  | update {table : TableRef} {assignments : List Expr} {condition : Option Expr}
      (htable : Reads entries "table" TableRef.ofValue table)
      (hassignments : Reads entries "set" Expr.listOfValue assignments)
      (hcondition : ReadsOptional entries "where" Expr.ofValue condition) :
      Spells entries .update (.update table assignments condition)
  | select {query : Select} (hquery : query.Spelled entries) :
      Spells entries .select (.select query)
  | withSelect {name : String} {inner outer : Select} (hname : Reads entries "name" shown name)
      (hinner : Reads entries "with" Select.ofValue inner)
      (houter : Reads entries "select" Select.ofValue outer) :
      Spells entries .withSelect (.withSelect name inner outer)

theorem Select.ofEntries_eq_ok_iff {entries : Entries} {query : Select} :
    Select.ofEntries entries = .ok query ↔ query.Spelled entries := by
  rw [Select.ofEntries]
  -- Each part is looked up on its own, the condition last.
  simp only [Loading.bind_eq_ok_iff, Loading.pure_eq_ok_iff, exprListAt_eq_ok_iff,
    tableAt_eq_ok_iff, optionalExprAt_eq_ok_iff]
  constructor
  · rintro ⟨columns, hcolumns, source, hsource, condition, hcondition, rfl⟩
    exact ⟨hcolumns, hsource, hcondition⟩
  · intro h
    exact ⟨query.columns, h.columns, query.source, h.source, query.condition, h.condition, rfl⟩

theorem Select.ofValue_eq_ok_iff {value : Value} {query : Select} :
    Select.ofValue value = .ok query ↔
      ∃ entries, value.content = .mapping entries ∧ query.Spelled entries := by
  simp only [Select.ofValue, ofMapping_eq_ok_iff, Select.ofEntries_eq_ok_iff]

theorem Document.selectAt_eq_require_under (entries : Entries) (key : String) :
    selectAt entries key =
      require entries key >>= fun found => (Select.ofValue found.1).under (.key key) := by
  rw [selectAt]
  congr 1
  funext found
  rw [Select.ofValue, ofMapping]
  cases found.1.content <;> rfl

theorem Document.selectAt_eq_ok_iff {entries : Entries} {key : String} {query : Select} :
    selectAt entries key = .ok query ↔ Reads entries key Select.ofValue query := by
  rw [selectAt_eq_require_under, require_under_eq_ok_iff]

theorem StatementKind.ofName?_eq_some_iff {text : String} {kind : StatementKind} :
    ofName? text = some kind ↔ kind.name = text := by
  constructor
  · intro h
    simpa using List.find?_some h
  · rintro rfl
    exact ofName?_name kind

/-- A mapping of a kind is read as a statement when its keys spell one of that kind. -/
theorem Statement.ofEntries_eq_ok_iff {entries : Entries} {kind : StatementKind} {s : Statement} :
    Statement.ofEntries entries kind = .ok s ↔ kind.Spells entries s := by
  -- For each kind the keys in the order of reading, as for expressions.
  cases kind <;> rw [Statement.ofEntries] <;>
    simp only [Loading.bind_eq_ok_iff, Loading.pure_eq_ok_iff, Loading.under_eq_ok_iff,
      Subtype.exists, require_eq_ok_iff, exists_reads_iff, identifierAt_eq_ok_iff,
      targetAt_eq_ok_iff, tableAt_eq_ok_iff, exprListAt_eq_ok_iff, optionalExprAt_eq_ok_iff,
      conflictAt_eq_ok_iff, selectAt_eq_ok_iff, Select.ofEntries_eq_ok_iff, rowOfPairs_eq_ok_iff]
  case alter =>
    constructor
    · rintro ⟨target, htarget, name, hname, action, haction, rfl⟩
      exact .alter htarget hname haction
    · intro h
      cases h with
      | alter htarget hname haction => exact ⟨_, htarget, _, hname, _, haction, rfl⟩
  case create =>
    constructor
    · rintro ⟨target, htarget, name, hname, body, hbody, ifNotExists, hflag, rfl⟩
      exact .create htarget hname hbody hflag
    · intro h
      cases h with
      | create htarget hname hbody hflag => exact ⟨_, htarget, _, hname, _, hbody, _, hflag, rfl⟩
  case drop =>
    constructor
    · rintro ⟨target, htarget, name, hname, rfl⟩
      exact .drop htarget hname
    · intro h
      cases h with
      | drop htarget hname => exact ⟨_, htarget, _, hname, rfl⟩
  case insert =>
    constructor
    -- The pairs of an insert are read before the table, so their key comes first here.
    · rintro ⟨pairs, hpairs, row, hrow, onConflict, hconflict, table, htable, rfl⟩
      exact .insert hpairs hrow hconflict htable
    · intro h
      cases h with
      | insert hpairs hrow hconflict htable =>
        exact ⟨_, hpairs, _, hrow, _, hconflict, _, htable, rfl⟩
  case update =>
    constructor
    · rintro ⟨table, htable, assignments, hassignments, condition, hcondition, rfl⟩
      exact .update htable hassignments hcondition
    · intro h
      cases h with
      | update htable hassignments hcondition =>
        exact ⟨_, htable, _, hassignments, _, hcondition, rfl⟩
  case select =>
    constructor
    · rintro ⟨query, hquery, rfl⟩
      exact .select hquery
    · intro h
      cases h with
      | select hquery => exact ⟨_, hquery, rfl⟩
  case withSelect =>
    constructor
    · rintro ⟨name, hname, inner, hinner, outer, houter, rfl⟩
      exact .withSelect hname hinner houter
    · intro h
      cases h with
      | withSelect hname hinner houter => exact ⟨_, hname, _, hinner, _, houter, rfl⟩

/-- A value is read as a statement when it is a mapping that names a kind and whose keys spell a
statement of that kind. -/
theorem Statement.ofValue_eq_ok_iff {value : Value} {s : Statement} :
    Statement.ofValue value = .ok s ↔
      ∃ (entries : Entries) (kind : StatementKind), value.content = .mapping entries ∧
        kindText entries = .ok kind.name ∧ kind.Spells entries s := by
  show ofMapping .statementNotMapping _ value = _ ↔ _
  rw [ofMapping_eq_ok_iff]
  constructor
  -- The kind that is found decides which keys are looked for.
  · rintro ⟨entries, hcontent, h⟩
    obtain ⟨text, htext, h⟩ := Loading.bind_eq_ok_iff.mp h
    split at h
    · next kind hkind =>
      rw [← StatementKind.ofName?_eq_some_iff.mp hkind] at htext
      exact ⟨entries, kind, hcontent, htext, Statement.ofEntries_eq_ok_iff.mp h⟩
    · cases h
  · rintro ⟨entries, kind, hcontent, hkind, h⟩
    refine ⟨entries, hcontent, Loading.bind_eq_ok_iff.mpr ⟨kind.name, hkind, ?_⟩⟩
    rw [StatementKind.ofName?_name]
    exact Statement.ofEntries_eq_ok_iff.mpr h

/-! ## Batches -/

theorem Document.statementsOfItems_eq_readItems (i : Nat) (items : List Value) :
    statementsOfItems i items = readItems .statement Statement.ofValue i items :=
  eq_readItems (fun _ => by rw [statementsOfItems]) (fun _ _ _ => by rw [statementsOfItems]) i
    items

theorem Document.statementsOfItems_eq_ok_iff {i : Nat} {items : List Value} {batch : Batch} :
    statementsOfItems i items = .ok batch ↔ ReadsItems Statement.ofValue items batch := by
  rw [statementsOfItems_eq_readItems, readItems_eq_ok_iff]

/-- A batch is read when each of its items is, in their order. -/
theorem Batch.ofValue_eq_ok_iff {value : Value} {batch : Batch} :
    Batch.ofValue value = .ok batch ↔
      ∃ items, batchItems value = .ok items ∧ ReadsItems Statement.ofValue items batch := by
  unfold Batch.ofValue
  simp only [Loading.bind_eq_ok_iff, statementsOfItems_eq_ok_iff]

end SchemaMigration
