import SchemaMigration.Expr.Basic

/-!
# Statements of a migration

Seven kinds of statements are built from identifiers, expressions, table references and selects.
A select is a type of its own, because a `with` statement embeds two of them.
-/

namespace SchemaMigration

/-- A table with the alias under which a statement refers to it; the alias may be empty. -/
structure TableRef where
  table : Identifier
  shortName : String := ""
  deriving DecidableEq

/-- What an insert does when a row is already there: the cause and the assignments. -/
structure ConflictClause where
  cause : Expr
  assignments : List Expr
  deriving DecidableEq

/-- A select over one table. -/
structure Select where
  columns : List Expr
  source : TableRef
  condition : Option Expr
  deriving DecidableEq

/-- A statement of a migration. -/
inductive Statement where
  /-- Changes an object by one action. -/
  | alter (target : Target) (name : Identifier) (action : Expr)
  /-- Creates an object, from a body if there is one. -/
  | create (target : Target) (name : Identifier) (body : Option Expr) (ifNotExists : Bool)
  /-- Drops an object. -/
  | drop (target : Target) (name : Identifier)
  /-- Inserts one row: fields with their values, in order. -/
  | insert (table : TableRef) (values : List (String × Expr)) (onConflict : Option ConflictClause)
  /-- Updates the rows of a table that meet a condition. -/
  | update (table : TableRef) (assignments : List Expr) (condition : Option Expr)
  /-- Selects rows. -/
  | select (query : Select)
  /-- Selects rows with a named select in front. -/
  | withSelect (name : String) (inner outer : Select)
  deriving DecidableEq

end SchemaMigration
