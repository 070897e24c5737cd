import SchemaMigration.Json.Writer
import SchemaMigration.Text.Join
import SchemaMigration.Yaml.Writer

/-!
# The formats in which documents are written
-/

namespace SchemaMigration

/-- A format for documents. -/
inductive OutputFormat where
  | json
  | yaml
  deriving DecidableEq

namespace OutputFormat

/-- The name of a format. -/
def name : OutputFormat → String
  | json => "json"
  | yaml => "yaml"

/-- Every format, in the order in which they are listed to users. -/
def all : List OutputFormat := [json, yaml]

/-- The format of a name. -/
def ofName? (text : String) : Option OutputFormat :=
  all.find? (·.name = text)

@[simp] theorem ofName?_name (format : OutputFormat) : ofName? format.name = some format := by
  cases format <;> decide

/-- The names of all formats. -/
def choices : String := commaList (all.map name)

/-- The text that reports a name of no format. -/
def unknownMessage (text : String) : String :=
  "Invalid format '" ++ text ++ "'. Must be one of: " ++ choices

/-- The text of a document in a format. -/
def render : OutputFormat → Outline → String
  | json => Json.render
  | yaml => Yaml.render

end OutputFormat

end SchemaMigration
