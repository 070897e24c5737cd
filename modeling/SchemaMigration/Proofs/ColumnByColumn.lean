import Mathlib.Data.List.Forall2
import SchemaMigration.Proofs.KeyAgreement
import SchemaMigration.Proofs.Keys

/-!
# Creating a table at once and column by column

A table can be created with all of its columns, or created empty and then altered once for each
column. Both ways provide the same keys in the same order: all of these statements resolve the same
name, so either none of them provides anything or all of them do
(`Statement.provides_addColumns`). Both ways also need the same keys, since the body of a table
needs what its columns need, one after the other (`Statement.requires_addColumns`), and if a column
needs something that does not resolve, the first such column tells what is reported
(`Keys.concat_cases`).
-/

namespace SchemaMigration

/-- The statements that add columns to an object, each with a flag of its own. -/
def Statement.addColumns (target : Target) (name : Identifier) (columns : List (Column × Bool)) :
    List Statement :=
  columns.map fun column => .alter target name (.addColumn column.1 column.2)

/-- The statement that creates an object with columns in its body. -/
def Statement.createWith (target : Target) (name : Identifier) (columns : List (Column × Bool))
    (ifNotExists : Bool) : Statement :=
  .create target name (some (.tableBody (columns.map Prod.fst))) ifNotExists

namespace Keys

/-- A sequence of parts succeeds as a whole, or it falls apart at the first part that fails. -/
theorem concat_cases {α : Type} (parts : List α) (run : α → Keys) :
    (∃ own, List.Forall₂ (fun part keys => run part = .ok keys) parts own ∧
        concat (parts.map run) = .ok own.flatten) ∨
      ∃ before part after error, parts = before ++ part :: after ∧
        (∀ earlier ∈ before, ∃ keys, run earlier = .ok keys) ∧ run part = .error error ∧
        concat (parts.map run) = .error error := by
  -- Each part is there before the next one is asked for, so the induction is on the parts.
  induction parts with
  | nil => exact .inl ⟨[], .nil, rfl⟩
  | cons part rest ih =>
    rw [List.map_cons, concat_cons]
    cases hpart : run part with
    | error error => exact .inr ⟨[], part, rest, error, rfl, by simp, hpart, rfl⟩
    | ok keys =>
      rcases ih with ⟨own, hown, hconcat⟩ | ⟨before, found, after, error, hrest, hbefore, hfound,
        hconcat⟩
      · refine .inl ⟨keys :: own, .cons hpart hown, ?_⟩
        rw [hconcat, append_ok_ok, List.flatten_cons]
      · refine .inr ⟨part :: before, found, after, error, by rw [hrest, List.cons_append], ?_,
          hfound, by rw [hconcat, append_ok_error]⟩
        -- The parts before the failing one are this part and those before it in the rest.
        intro earlier hearlier
        rcases List.mem_cons.mp hearlier with rfl | hmem
        · exact ⟨keys, hpart⟩
        · exact hbefore earlier hmem

end Keys

namespace Statement

variable {target : Target} {name : Identifier}

/-! ## What is provided -/

theorem provides_addColumn (target : Target) (name : Identifier) (column : Column)
    (ifNotExists : Bool) :
    (Statement.alter target name (.addColumn column ifNotExists)).provides =
      (name.resolve target).map fun parts => [ObjectKey.ofField parts column.baseName] :=
  provides_alter ..

theorem provides_addColumns_of_error {error : Identifier.Unresolvable}
    (h : name.resolve target = .error error) (columns : List (Column × Bool)) :
    ∀ s ∈ addColumns target name columns, s.provides = .error error := by
  intro s hs
  obtain ⟨column, -, rfl⟩ := List.mem_map.mp hs
  rw [provides_addColumn, h]
  rfl

/-- The added columns provide their keys one after the other. -/
theorem provides_addColumns {parts : Identifier.Resolved} (h : name.resolve target = .ok parts)
    (columns : List (Column × Bool)) :
    Keys.concat ((addColumns target name columns).map provides) =
      .ok (columns.map fun column => ObjectKey.ofField parts column.1.baseName) := by
  induction columns with
  | nil => rfl
  -- One alteration provides one column, and its name is the one that resolves.
  | cons column rest ih =>
    have hfirst := provides_addColumn target name column.1 column.2
    rw [h] at hfirst
    have hcolumns : addColumns target name (column :: rest) =
        .alter target name (.addColumn column.1 column.2) :: addColumns target name rest := rfl
    rw [hcolumns, List.map_cons, Keys.concat_cons, ih, hfirst, Except.map, Keys.append_ok_ok,
      List.map_cons, List.singleton_append]

/-- The keys of a creation with columns are those of the empty creation and then those of the
added columns. -/
theorem provides_createWith (target : Target) (name : Identifier) (columns : List (Column × Bool))
    (ifNotExists emptyIfNotExists : Bool) :
    (createWith target name columns ifNotExists).provides =
      Keys.append (Statement.create target name none emptyIfNotExists).provides
        (Keys.concat ((addColumns target name columns).map provides)) := by
  have hwhole := provides_create_tableBody target name (columns.map Prod.fst) ifNotExists
  have hempty := provides_create_none target name emptyIfNotExists
  rw [createWith, hwhole, hempty]
  -- All of these statements resolve the same name, and nothing else can go wrong.
  cases hname : name.resolve target with
  | error error => rfl
  | ok parts =>
    rw [provides_addColumns hname]
    simp [Except.map, Function.comp_def]

/-! ## What is needed -/

theorem requires_addColumns (target : Target) (name : Identifier) (columns : List (Column × Bool))
    (ifNotExists : Bool) :
    (createWith target name columns ifNotExists).requires =
      Keys.concat ((addColumns target name columns).map requires) := by
  have hcolumns : (addColumns target name columns).map requires =
      (columns.map Prod.fst).map Column.requires := by
    rw [addColumns, List.map_map, List.map_map]
    -- Adding a column needs what the column needs.
    refine List.map_congr_left fun column _ => ?_
    show (Expr.addColumn column.1 column.2).requires = column.1.requires
    rw [Expr.requires]
  rw [createWith, requires, Expr.requires, Column.requiresList_eq_concat, hcolumns]

end Statement

/-- What two ways to the same table have in common: the keys that they provide and those that they
need. -/
structure SameTable (whole empty : Statement) (added : List Statement) : Prop where
  /-- The keys of the whole are those of the empty table and then those of each column. -/
  provides :
    whole.provides = Keys.append empty.provides (Keys.concat (added.map Statement.provides))
  /-- All statements provide something, or all fail with the same name. -/
  alike :
    (∃ keys own, empty.provides = .ok keys ∧
        List.Forall₂ (fun (s : Statement) more => s.provides = .ok more) added own ∧
        whole.provides = .ok (keys ++ own.flatten)) ∨
      ∃ error, ∀ s ∈ whole :: empty :: added, s.provides = .error error
  /-- The keys that the whole needs are those of each column. -/
  requires : whole.requires = Keys.concat (added.map Statement.requires)
  /-- If a column needs something that does not resolve, the first such column tells what. -/
  first :
    (∃ own, List.Forall₂ (fun (s : Statement) more => s.requires = .ok more) added own ∧
        whole.requires = .ok own.flatten) ∨
      ∃ before s after error, added = before ++ s :: after ∧
        (∀ earlier ∈ before, ∃ keys, earlier.requires = .ok keys) ∧ s.requires = .error error ∧
        whole.requires = .error error

/-- **At once or column by column.** Creating an object with columns, and creating it empty and
adding the columns in their order, provide the same keys and need the same keys; where one way
fails, so does the other, with the same name. None of the flags matters. -/
theorem created_at_once_or_by_column (target : Target) (name : Identifier)
    (columns : List (Column × Bool)) (ifNotExists emptyIfNotExists : Bool) :
    SameTable (.createWith target name columns ifNotExists)
      (.create target name none emptyIfNotExists) (Statement.addColumns target name columns) := by
  have hprovides := Statement.provides_createWith target name columns ifNotExists emptyIfNotExists
  have hrequires := Statement.requires_addColumns target name columns ifNotExists
  have hempty := Statement.provides_create_none target name emptyIfNotExists
  refine ⟨hprovides, ?_, hrequires, ?_⟩
  · cases hname : name.resolve target with
    | error error =>
      rw [hname] at hempty
      rw [hempty] at hprovides
      have hadded := Statement.provides_addColumns_of_error hname columns
      refine .inr ⟨error, ?_⟩
      -- The name does not resolve, and every one of the statements resolves it.
      simp only [List.forall_mem_cons]
      exact ⟨hprovides, hempty, hadded⟩
    | ok parts =>
      rw [hname] at hempty
      rcases Keys.concat_cases (Statement.addColumns target name columns) Statement.provides with
        ⟨own, hown, hconcat⟩ | ⟨_, _, _, error, _, _, _, hconcat⟩
      · refine .inl ⟨_, own, hempty, hown, ?_⟩
        rw [hprovides, hempty, hconcat]
        rfl
      -- The name resolves, so none of the added columns fails.
      · rw [Statement.provides_addColumns hname] at hconcat
        cases hconcat
  · rw [hrequires]
    exact Keys.concat_cases _ _

/-- A name that does not resolve is what both ways fail with, even where the flags differ and a
column needs something that does not resolve either. -/
example :
    let columns : List (Column × Bool) :=
      [(.define (.name "id") (.name "int") [], true),
        (.define (.name "buyer") (.name "app.") [.references (.name "users") "" "" ""], false)]
    let whole := Statement.createWith .table (.name "orders") columns true
    whole.provides = .error ⟨"orders", .table⟩ ∧ whole.requires = .error ⟨"app.", .type⟩ := by
  decide

end SchemaMigration
