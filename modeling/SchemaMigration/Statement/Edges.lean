import SchemaMigration.Expr.Requires
import SchemaMigration.Statement.Basic

/-!
# The dependency edges of a statement

The objects it needs and the objects it provides.

Only statements that define something provide keys: a creation provides its object and, for a table
body, every column of it; an alteration provides the object again, or the column it adds. Drops and
selects have no edges at all, and the condition of an update is not looked into.
-/

namespace SchemaMigration

/-- The keys of the objects that have to exist before the statement runs. -/
def Statement.requires : Statement → Keys
  | .alter _ _ action => action.requires
  | .create _ _ (some body) _ => body.requires
  | .create _ _ none _ => .ok []
  | .drop _ _ => .ok []
  | .insert table _ _ => do
    let resolved ← table.table.resolve .table
    return [ObjectKey.ofResolved resolved]
  | .update _ assignments _ => Expr.requiresList assignments
  | .select _ => .ok []
  | .withSelect _ _ _ => .ok []

/-- The keys of the objects that exist because the statement ran. -/
def Statement.provides : Statement → Keys
  | .alter target name action => do
    let resolved ← name.resolve target
    match action with
    | .addColumn definition _ => return [ObjectKey.ofField resolved definition.baseName]
    | _ => return [ObjectKey.ofResolved resolved]
  | .create target name body _ => do
    let resolved ← name.resolve target
    match body with
    | some (.tableBody columns) =>
      return ObjectKey.ofResolved resolved ::
        columns.map (fun column => ObjectKey.ofField resolved column.baseName)
    | _ => return [ObjectKey.ofResolved resolved]
  | .drop _ _ => .ok []
  | .insert _ _ _ => .ok []
  | .update _ _ _ => .ok []
  | .select _ => .ok []
  | .withSelect _ _ _ => .ok []

end SchemaMigration
