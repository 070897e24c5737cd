import SchemaMigration.Target

/-!
# Identifiers, and how an identifier is resolved to a schema and an object

An identifier is a single name, which may itself be written with dots, or a name qualified by its
container. `Identifier.resolve` splits either into a schema and an object. An object of a schema has
to be qualified; a bare name resolves only where a schema is named.
-/

namespace SchemaMigration

/-- A plain name, kept as it was written, or a name with its container. -/
inductive Identifier where
  | name (text : String)
  | qualified (container base : String)
  deriving DecidableEq

namespace Identifier

/-- The SQL text of an identifier. -/
def render : Identifier → String
  | name text => text
  | qualified container base => container ++ "." ++ base

/-- The rightmost part: the name without the container that qualifies it. -/
def baseName : Identifier → String
  | name text => text
  | qualified _ base => base

/-- A name that cannot be split into a schema and an object of the kind it should name. -/
structure Unresolvable where
  name : String
  target : Target
  deriving DecidableEq

/-- The text that reports an unresolvable name. -/
def Unresolvable.message (error : Unresolvable) : String :=
  "cannot resolve schema for \x60" ++ error.name ++ "\x60"

/-- The parts before and after the first dot, if there is a dot. -/
def splitAtDot : List Char → Option (List Char × List Char)
  | [] => none
  | c :: rest =>
    if c = '.' then some ([], rest)
    else (splitAtDot rest).map fun (before, after) => (c :: before, after)

/-- Does the text hold a dot? -/
def isDotted (text : String) : Bool :=
  text.toList.contains '.'

/-- A schema and an object in it; the object is empty where a schema itself is named. -/
abbrev Resolved := String × String

/-- The schema and the object that an identifier names, as an object of the given kind. -/
def resolve (target : Target) : Identifier → Except Unresolvable Resolved
  | name text =>
    match splitAtDot text.toList with
    | some (before, after) =>
      if before = [] ∨ after = [] then .error ⟨text, target⟩
      else .ok (String.ofList before, String.ofList after)
    | none => if target = .schema then .ok (text, "") else .error ⟨text, target⟩
  | qualified container base =>
    if container = "" then .error ⟨base, target⟩
    else if base = "" ∧ target ≠ .schema then .error ⟨(qualified container base).render, target⟩
    else .ok (container, base)

/-- Is the identifier written with its schema, as a selector or as a dotted name? -/
def isQualified : Identifier → Bool
  | name text => isDotted text
  | qualified _ _ => true

end Identifier

end SchemaMigration
