/-!
# Targets

The kinds of schema objects that a statement can address, and their nouns.
-/

namespace SchemaMigration

/-- A kind of schema object. -/
inductive Target where
  | schema
  | table
  | column
  | constraint
  | index
  | type
  | domain
  | sequence
  | view
  | function
  | trigger
  | extension
  deriving DecidableEq

namespace Target

/-- The noun that names the kind in SQL text and in documents. -/
def noun : Target → String
  | schema => "schema"
  | table => "table"
  | column => "column"
  | constraint => "constraint"
  | index => "index"
  | type => "type"
  | domain => "domain"
  | sequence => "sequence"
  | view => "view"
  | function => "function"
  | trigger => "trigger"
  | extension => "extension"

/-- Every kind, once. -/
def all : List Target :=
  [schema, table, column, constraint, index, type, domain, sequence, view, function, trigger,
    extension]

/-- The kind that a noun names; the noun has to be spelled exactly. -/
def ofNoun? (text : String) : Option Target :=
  all.find? (·.noun = text)

theorem mem_all (target : Target) : target ∈ all := by
  cases target <;> decide

@[simp] theorem ofNoun?_noun (target : Target) : ofNoun? target.noun = some target := by
  cases target <;> decide

end Target

end SchemaMigration
