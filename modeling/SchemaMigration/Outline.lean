import SchemaMigration.Value.Basic

/-!
# Outlines

Documents that this library writes: texts and numbers in lists and records.

Every such document can be written both as JSON and as YAML.
-/

namespace SchemaMigration

/-- A document to be written. -/
inductive Outline where
  | text (s : String)
  | number (n : Nat)
  | list (items : List Outline)
  | record (fields : List (String × Outline))

namespace Outline

mutual

/-- The value that a document holds. -/
def toValue : Outline → Value
  | text s => .text s
  | number n => .int n
  | list items => .list (toValues items)
  | record fields => .mapping (toEntries fields)

/-- The values of several documents. -/
def toValues : List Outline → List Value
  | [] => []
  | first :: rest => first.toValue :: toValues rest

/-- The entries of the fields of a record. -/
def toEntries : List (String × Outline) → Entries
  | [] => []
  | (name, value) :: rest => (.text name, value.toValue) :: toEntries rest

end

end Outline

end SchemaMigration
