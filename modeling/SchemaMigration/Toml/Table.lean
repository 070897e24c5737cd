import SchemaMigration.Toml.Lexical

/-!
# Tables of a TOML document while it is read

A table can be opened by a header once. Tables that dotted keys make can be added to by more dotted
keys of the same section, and after that neither by dotted keys nor by a header; tables that merely
lie on the way to another one stay open. Values, arrays and inline tables among them, cannot be
added to.
-/

namespace SchemaMigration.Toml

/-- How a table came about. -/
inductive Origin where
  /-- It lies on the way to a table with a header. -/
  | implied
  /-- It has a header. -/
  | header
  /-- Dotted keys of the section with this index made it, or added to it. -/
  | dotted (index : Nat)
  deriving DecidableEq

/-- What a name in a table stands for. -/
inductive Item where
  | value (v : Value)
  | table (origin : Origin) (items : List (String × Item))
  /-- An array of tables: those that are complete, and the last one. -/
  | tables (before : List Value) (items : List (String × Item))

/-- The items of a table, in the order in which their names first occur. -/
abbrev Items := List (String × Item)

namespace Items

/-- The items with the item of a name changed. -/
def change (items : Items) (name : String) (item : Item) : Items :=
  items.map fun entry => if entry.1 = name then (name, item) else entry

mutual

/-- The value of the items of a table. -/
def toEntries : List (String × Item) → Entries
  | [] => []
  | (name, item) :: rest => (.text name, itemValue item) :: toEntries rest

/-- The value that a name stands for. -/
def itemValue : Item → Value
  | .value v => v
  | .table _ items => .mapping (toEntries items)
  | .tables before items => .list (before ++ [.mapping (toEntries items)])

end

/-- Applies a change to the table that names lead to. Tables on the way are made if they are not
there; of an array of tables the last one counts. -/
def within (alter : Items → Option Items) : List String → Items → Option Items
  | [], items => alter items
  | name :: rest, items =>
    match items.lookup name with
    | none => do return items ++ [(name, .table .implied (← within alter rest []))]
    | some (.table origin inner) => do
      return items.change name (.table origin (← within alter rest inner))
    | some (.tables before last) => do
      return items.change name (.tables before (← within alter rest last))
    | some (.value _) => none

/-- Opens a table by its header. -/
def openTable (name : String) (items : Items) : Option Items :=
  match items.lookup name with
  | none => some (items ++ [(name, .table .header [])])
  | some (.table .implied inner) => some (items.change name (.table .header inner))
  | some _ => none

/-- Opens one more table of an array. -/
def openElement (name : String) (items : Items) : Option Items :=
  match items.lookup name with
  | none => some (items ++ [(name, .tables [] [])])
  | some (.tables before last) =>
    some (items.change name (.tables (before ++ [.mapping (toEntries last)]) []))
  | some _ => none

/-- Can dotted keys of a section add to a table of this origin? -/
def isOpenIn (now : Nat) : Origin → Bool
  | .implied => true
  | .header => false
  | .dotted earlier => earlier = now

/-- Adds a value under a dotted key of a section; it may not be there yet. -/
def add (now : Nat) (v : Value) : List String → Items → Option Items
  | [], _ => none
  | [name], items =>
    if (items.lookup name).isSome then none else some (items ++ [(name, .value v)])
  | name :: rest, items =>
    match items.lookup name with
    | none => do return items ++ [(name, .table (.dotted now) (← add now v rest []))]
    | some (.table origin inner) =>
      if isOpenIn now origin then do
        return items.change name (.table (.dotted now) (← add now v rest inner))
      else none
    | some _ => none

end Items

end SchemaMigration.Toml
