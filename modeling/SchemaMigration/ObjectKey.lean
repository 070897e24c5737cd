import SchemaMigration.Identifier

/-!
# Keys of schema objects

What statements need and what they provide.

A key has three levels, and an empty level means that nothing is said about it. Lists of keys keep
their order and their duplicates, because whoever orders a batch reports the first key that is
missing.
-/

namespace SchemaMigration

/-- A schema, an object in it and a field of that. -/
structure ObjectKey where
  schema : String := ""
  object : String := ""
  field : String := ""
  deriving DecidableEq

namespace ObjectKey

/-- The levels that are present, joined by dots. -/
def render (key : ObjectKey) : String :=
  ".".intercalate ([key.schema, key.object, key.field].filter (· ≠ ""))

/-- The key of an object that an identifier resolved to. -/
def ofResolved (resolved : Identifier.Resolved) : ObjectKey :=
  ⟨resolved.1, resolved.2, ""⟩

/-- The key of a field of an object that an identifier resolved to. -/
def ofField (resolved : Identifier.Resolved) (field : String) : ObjectKey :=
  ⟨resolved.1, resolved.2, field⟩

/-- The keys of several groups in order; an absent group counts as empty. -/
def concat (groups : List (Option (List ObjectKey))) : List ObjectKey :=
  (groups.filterMap id).flatten

/-- How many different keys a list holds. -/
def countDistinct (keys : List ObjectKey) : Nat :=
  keys.eraseDups.length

end ObjectKey

/-- Keys in order, or the first name on the way that does not resolve. -/
abbrev Keys := Except Identifier.Unresolvable (List ObjectKey)

namespace Keys

/-- The keys of one part followed by those of the next; the first failure wins. -/
def append (first second : Keys) : Keys := do
  let keys ← first
  let more ← second
  return keys ++ more

/-- The keys of all parts in order; the first failure wins. -/
def concat : List Keys → Keys
  | [] => .ok []
  | first :: rest => append first (concat rest)

end Keys

end SchemaMigration
