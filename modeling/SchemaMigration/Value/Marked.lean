import SchemaMigration.Value.Basic

/-!
# Values with marked halves

Halves of surrogate pairs are told from the characters of a text by reading a document twice: as it
is, and with every half in it marked.
-/

namespace SchemaMigration.Value

mutual

/-- The value with every half in its texts marked. -/
def marked : Value → Value
  | brokenText codes => brokenText (codes.map (·.marked))
  | list items => list (allMarked items)
  | mapping entries => mapping (entriesMarked entries)
  | set members => set (allMarked members)
  | pair first second => pair first.marked second.marked
  | looped id ⟨collection⟩ => looped id ⟨fun _ => (collection ()).marked⟩
  | null => null
  | bool b => bool b
  | int n => int n
  | float x => float x
  | text s => text s
  | bytes data => bytes data
  | date d => date d
  | moment m => moment m
  | clock c => clock c

/-- All values with their halves marked. -/
def allMarked : List Value → List Value
  | [] => []
  | first :: rest => first.marked :: allMarked rest

/-- All entries with the halves in their keys and values marked. -/
def entriesMarked : List (Value × Value) → List (Value × Value)
  | [] => []
  | (key, value) :: rest => (key.marked, value.marked) :: entriesMarked rest

end

end SchemaMigration.Value
