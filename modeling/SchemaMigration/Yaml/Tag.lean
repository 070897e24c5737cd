/-!
# Tags

The types of YAML nodes.
-/

namespace SchemaMigration.Yaml

/-- The type of a node. -/
inductive Tag where
  | null
  | bool
  | int
  | float
  | binary
  | timestamp
  | text
  | list
  | mapping
  | set
  | orderedMapping
  | pairs
  /-- The key `<<`, which merges other mappings in. -/
  | merge
  /-- The key `=`, which names the value that a mapping stands for. -/
  | value
  /-- A type that this library does not know. -/
  | other (name : String)
  deriving DecidableEq

/-- The namespace of the tags that YAML itself defines. -/
def standardNamespace : String := "tag:yaml.org,2002:"

/-- The type of a scalar that is nothing but a mark of YAML itself; no value has it. -/
def Tag.mark : Tag := .other (standardNamespace ++ "yaml")

/-- The tags that YAML itself defines, with their names. -/
def standardTags : List (String × Tag) :=
  [("null", .null), ("bool", .bool), ("int", .int), ("float", .float), ("binary", .binary),
    ("timestamp", .timestamp), ("str", .text), ("seq", .list), ("map", .mapping), ("set", .set),
    ("omap", .orderedMapping), ("pairs", .pairs), ("merge", .merge), ("value", .value)]

/-- The tag of a full name. -/
def Tag.ofName (name : String) : Tag :=
  match standardTags.find? (fun entry => standardNamespace ++ entry.1 = name) with
  | some (_, tag) => tag
  | none => .other name

end SchemaMigration.Yaml
