import SchemaMigration.Document.Fault
import SchemaMigration.Statement.Basic

/-!
# Names in documents

Identifiers, targets and table references.

Text is a name as it stands. A mapping with a name and a container is a qualified name; without a
container, or with an empty one, it is a plain name again.
-/

namespace SchemaMigration

open Document

/-- The identifier that a value writes. -/
def Identifier.ofValue (value : Value) : Loading Identifier :=
  match value.content with
  | .text s => .ok (.name s)
  | .brokenText codes => .ok (.name (Value.brokenText codes).display)
  | .mapping entries => do
    let name ← require entries "name"
    let name ← shown name.1
    match Entries.get? entries "container" with
    | none => return .name name
    | some container =>
      if container.isTruthy then return .qualified (← shown container) name
      else return .name name
  | other => Loading.refuse (.notAnIdentifier other.kindName)

/-- The target that a value names, in any case. -/
def Target.ofValue (value : Value) : Loading Target := do
  let text ← shown value
  match Target.ofNoun? (Text.lower text) with
  | some target => return target
  | none => Loading.refuse (.unknownTarget text)

/-- The table reference that a value writes: a mapping with a table and an alias, or an identifier
without an alias. -/
def TableRef.ofValue (value : Value) : Loading TableRef :=
  match value.content with
  | .mapping entries =>
    match Entries.get? entries "table" with
    | some table => do
      let table ← (Identifier.ofValue table).under (.key "table")
      return ⟨table, ← textOrEmpty entries "alias"⟩
    | none => do return ⟨← Identifier.ofValue value, ""⟩
  | _ => do return ⟨← Identifier.ofValue value, ""⟩

/-- The identifier under a key that has to be there. -/
def Document.identifierAt (entries : Entries) (key : String) : Loading Identifier := do
  let value ← require entries key
  (Identifier.ofValue value.1).under (.key key)

/-- The target of a statement. -/
def Document.targetAt (entries : Entries) : Loading Target := do
  let value ← require entries "target"
  (Target.ofValue value.1).under (.key "target")

/-- The table reference under a key that has to be there. -/
def Document.tableAt (entries : Entries) (key : String) : Loading TableRef := do
  let value ← require entries key
  (TableRef.ofValue value.1).under (.key key)

end SchemaMigration
