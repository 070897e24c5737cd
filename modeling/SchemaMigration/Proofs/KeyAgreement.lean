import SchemaMigration.Proofs.ProvidedKeys

/-!
# Statements that provide an object and statements that need it use the same key

A planner links two statements only where a provided key equals a required one. The key of a table
is built in three places: where the table is created, where a row is inserted into it and where a
foreign key refers to it. The key of a type is built where the type is created and where a column is
of that type. Each place is described here by what the name of the object resolves to, and then
compared with the others (`provided_keys_match_required`).
-/

namespace SchemaMigration

/-! ## Each place by what its name resolves to -/

/-- A created table provides its own key and then the key of every column, in order. -/
theorem Statement.provides_create_tableBody (target : Target) (name : Identifier)
    (columns : List Column) (ifNotExists : Bool) :
    (Statement.create target name (some (.tableBody columns)) ifNotExists).provides =
      (name.resolve target).map fun parts =>
        ObjectKey.ofResolved parts ::
          columns.map fun column => ObjectKey.ofField parts column.baseName :=
  Statement.provides_create ..

/-- An object that is created without a body provides its own key. -/
theorem Statement.provides_create_none (target : Target) (name : Identifier)
    (ifNotExists : Bool) :
    (Statement.create target name none ifNotExists).provides =
      (name.resolve target).map fun parts => [ObjectKey.ofResolved parts] :=
  Statement.provides_create ..

/-- An insert needs its table, whatever is inserted. -/
theorem Statement.requires_insert (table : TableRef) (values : List (String × Expr))
    (onConflict : Option ConflictClause) :
    (Statement.insert table values onConflict).requires =
      (table.table.resolve .table).map fun parts => [ObjectKey.ofResolved parts] := by
  rw [Statement.requires]
  cases table.table.resolve .table with
  | error error => rfl
  | ok parts => rfl

/-- A foreign key needs its table, and the column of it unless that is empty. -/
theorem Expr.requires_references (table : Identifier) (column onDelete onUpdate : String) :
    (Expr.references table column onDelete onUpdate).requires =
      (table.resolve .table).map fun parts =>
        if column = "" then [ObjectKey.ofResolved parts]
        else [ObjectKey.ofResolved parts, ObjectKey.ofField parts column] := by
  rw [Expr.requires, Identifier.requiredAsReference]
  -- The table is resolved first, and whether a column is named counts only after that.
  cases table.resolve .table with
  | error error => rfl
  | ok parts =>
    simp only [bind, Except.bind, Except.map]
    split
    · rfl
    · rfl

/-- A column without constraints needs its type, if that is written with its schema. -/
theorem Column.requires_define_nil {dataType : Identifier} (h : dataType.isQualified = true)
    (name : Identifier) :
    (Column.define name dataType []).requires =
      (dataType.resolve .type).map fun parts => [ObjectKey.ofResolved parts] := by
  rw [Column.requires, Identifier.requiredAsType, if_pos h]
  cases dataType.resolve .type with
  | error error => rfl
  | ok parts => rfl

/-! ## The places agree -/

/-- The keys that a foreign key needs are all among those of the created table when the foreign key
names no column, or one of the columns of the table. -/
theorem ObjectKey.reference_subset_iff (parts : Identifier.Resolved) (columns : List Column)
    (column : String) :
    (∀ key ∈ if column = "" then [ofResolved parts] else [ofResolved parts, ofField parts column],
      key ∈ ofResolved parts :: columns.map fun c => ofField parts c.baseName) ↔
      column = "" ∨ ∃ c ∈ columns, c.baseName = column := by
  by_cases hcolumn : column = ""
  · simp [hcolumn]
  · -- The key of a column is not the key of its table, since the column has a name.
    have hne : ofField parts column ≠ ofResolved parts := by
      intro h
      exact hcolumn (ObjectKey.mk.inj h).2.2
    have hfield : ∀ c : Column, ofField parts c.baseName = ofField parts column ↔
        c.baseName = column := by
      intro c
      exact ⟨fun h => (ObjectKey.mk.inj h).2.2, fun h => by rw [h]⟩
    rw [if_neg hcolumn]
    simp [hcolumn, hne, hfield]

/-- **What provides an object and what needs it use the same key.** Creating a table, inserting into
it and referring to it fail alike, or the insert needs the very key that the creation provides, and
the foreign key needs nothing else exactly when its column is empty or a column of the table.
Creating a type and giving a column that type have the same outcome. -/
theorem provided_keys_match_required (table : Identifier) (columns : List Column)
    (ifNotExists : Bool) (shortName : String) (values : List (String × Expr))
    (onConflict : Option ConflictClause) (column onDelete onUpdate : String)
    (dataType columnName : Identifier) :
    let created := (Statement.create .table table (some (.tableBody columns)) ifNotExists).provides
    let inserted := (Statement.insert ⟨table, shortName⟩ values onConflict).requires
    let referred := (Expr.references table column onDelete onUpdate).requires
    let createdType := (Statement.create .type dataType none ifNotExists).provides
    let typed := (Column.define columnName dataType []).requires
    ((∃ error, created = .error error ∧ inserted = .error error ∧ referred = .error error) ∨
      ∃ provided key needed, created = .ok provided ∧ inserted = .ok [key] ∧
        referred = .ok needed ∧ key ∈ provided ∧
        ((∀ k ∈ needed, k ∈ provided) ↔ column = "" ∨ ∃ c ∈ columns, c.baseName = column)) ∧
    ((∃ container base, dataType = .qualified container base) ∨
        (∃ text, dataType = .name text ∧ '.' ∈ text.toList) →
      createdType = typed ∧
        ((∃ key, createdType = .ok [key]) ∨ ∃ error, createdType = .error error)) := by
  intro created inserted referred createdType typed
  constructor
  · -- One resolution stands behind all three lists, so they fail together.
    have hcreated : created = _ := Statement.provides_create_tableBody ..
    have hinserted : inserted = _ := Statement.requires_insert ..
    have hreferred : referred = _ := Expr.requires_references ..
    rw [hcreated, hinserted, hreferred]
    cases table.resolve .table with
    | error error => exact .inl ⟨error, rfl, rfl, rfl⟩
    | ok parts =>
      refine .inr ⟨_, _, _, rfl, rfl, rfl, List.mem_cons_self, ?_⟩
      exact ObjectKey.reference_subset_iff parts columns column
  · intro hspelling
    -- The type has its schema in front of it, so a column of this type requires a key at all.
    have hqualified : dataType.isQualified = true := dataType.isQualified_iff.mpr hspelling
    have hcreated : createdType = _ := Statement.provides_create_none ..
    have htyped : typed = _ := Column.requires_define_nil hqualified columnName
    rw [hcreated, htyped]
    refine ⟨rfl, ?_⟩
    cases dataType.resolve .type with
    | error error => exact .inr ⟨error, rfl⟩
    | ok parts => exact .inl ⟨_, rfl⟩

/-- A foreign key to the column `id` of a table that has one needs nothing but what the creation of
the table provides. A type with a dotted name is the same to its creation and to a column. -/
theorem users_provided_keys_match_required :
    (∃ provided needed,
      (Statement.create .table (.name "app.users")
        (some (.tableBody [.define (.name "id") (.name "int") []])) false).provides = .ok provided ∧
      (Expr.references (.name "app.users") "id" "cascade" "").requires = .ok needed ∧
      ∀ key ∈ needed, key ∈ provided) ∧
    '.' ∈ "app.mood".toList ∧
    (Statement.create .type (.name "app.mood") none false).provides =
      (Column.define (.name "feeling") (.name "app.mood") []).requires := by
  have hdot : '.' ∈ "app.mood".toList := by decide
  obtain ⟨htable, htype⟩ := provided_keys_match_required (.name "app.users")
    [.define (.name "id") (.name "int") []] false "" [] none "id" "cascade" "" (.name "app.mood")
    (.name "feeling")
  refine ⟨?_, hdot, (htype (.inr ⟨"app.mood", rfl, hdot⟩)).1⟩
  -- A create that is accepted is not the case in which all three fail.
  rcases htable with ⟨error, hcreated, _⟩ | ⟨provided, key, needed, hcreated, _, hneeded, _, hkeys⟩
  · cases hcreated
  · refine ⟨provided, needed, hcreated, hneeded, hkeys.mpr (.inr ?_)⟩
    exact ⟨.define (.name "id") (.name "int") [], List.mem_cons_self, rfl⟩

end SchemaMigration
