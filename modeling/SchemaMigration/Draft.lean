import SchemaMigration.Node.Form
import SchemaMigration.Value.Display

/-!
# Drafts

Statements and their parts as a caller writes them by hand.

In a draft a text may stand wherever an identifier, an expression or a table reference is expected,
and an identifier wherever a table reference is. `Draft.build` makes the typed node of a draft:
inner parts come first, in the order in which they are written, then the target is looked up, and
then each part is made into what its place asks for. The typed trees of this library have no other
freedom, so two drafts that build the same node cannot be told apart afterwards.
-/

namespace SchemaMigration

mutual

/-- A node, or something that stands for one. -/
inductive Draft where
  /-- A text in the place of an identifier, an expression or a table reference. -/
  | text (s : String)
  /-- Any other plain value; it stands for no node. -/
  | plain (value : Value)
  | unqualified (text : String)
  | qualified (container base : String)
  /-- A key of a schema object; it stands for nothing but itself. -/
  | key (schema object field : String)
  | literal (text : String)
  | ident (identifier : Draft)
  | binary (left : Draft) (operator : String) (right : Draft)
  | assign (field value : Draft)
  | references (table : Draft) (column onDelete onUpdate : String)
  | column (name dataType : Draft) (constraints : List Draft)
  | tableBody (columns : List Draft)
  | addColumn (definition : Draft) (ifNotExists : Bool)
  | dropColumn (name : Draft)
  | addConstraint (name body : Draft)
  | renameTo (newName : Draft)
  | tableRef (table : Draft) (shortName : String)
  | conflict (cause : Draft) (assignments : List Draft)
  | alter (target : Value) (name action : Draft)
  | create (target : Value) (name : Draft) (body : Option Draft) (ifNotExists : Bool)
  | drop (target : Value) (name : Draft)
  | insert (table : Draft) (row : RowDraft) (onConflict : Option Draft)
  | update (table : Draft) (assignments : List Draft) (condition : Option Draft)
  | select (columns : List Draft) (source : Draft) (condition : Option Draft)
  | withSelect (name : String) (inner outer : Draft)

/-- The values of an insert. -/
inductive RowDraft where
  /-- Fields with their values, in order. -/
  | pairs (fields : List (String × Draft))
  /-- A mapping from fields to values: a repeated field keeps its first place and takes the last
  value. -/
  | mapping (fields : List (String × Draft))

end

namespace Draft

/-- Why a draft builds no node. -/
inductive Fault where
  /-- What has this label stands where an identifier is expected. -/
  | notAnIdentifier (label : String)
  /-- What has this label stands where an expression is expected. -/
  | notAnExpression (label : String)
  /-- What has this label stands where a column definition is expected. -/
  | notAColumn (label : String)
  /-- What has this label stands where a conflict clause is expected. -/
  | notAConflictClause (label : String)
  /-- What has this label stands where a select is expected. -/
  | notASelect (label : String)
  /-- What is written like this is no noun for a kind of schema object. -/
  | unknownTarget (shown : String)
  /-- What has this label is no piece of SQL by itself. -/
  | notSql (label : String)
  deriving DecidableEq

/-- The text that reports a fault. -/
def Fault.message : Fault → String
  | notAnIdentifier label => "Cannot build an identifier from " ++ label
  | notAnExpression label => "Cannot build an expression from " ++ label
  | notAColumn label => "Cannot build a column from " ++ label
  | notAConflictClause label => "Cannot build a conflict clause from " ++ label
  | notASelect label => "Cannot build a select from " ++ label
  | unknownTarget shown => shown ++ " is not a valid SqlTarget"
  | notSql label => "'" ++ label ++ "' object has no attribute 'render'"

/-- What a draft amounts to: a node, or a plain value that its place may still make into one. -/
inductive Part where
  | text (s : String)
  | plain (value : Value)
  | node (n : Node)

namespace Part

/-- The label of a part's kind. -/
def label : Part → String
  | text s => (Value.text s).kindName
  | plain value => value.kindName
  | node n => n.label

/-- The identifier that a part stands for. -/
def toIdentifier : Part → Except Fault Identifier
  | text s => .ok (.name s)
  | node (.identifier i) => .ok i
  | other => .error (.notAnIdentifier other.label)

/-- The expression that a part stands for. -/
def toExpr : Part → Except Fault Expr
  | text s => .ok (.literal s)
  | node (.expr e) => .ok e
  | other => .error (.notAnExpression other.label)

/-- The table reference that a part stands for. -/
def toTableRef : Part → Except Fault TableRef
  | node (.tableRef t) => .ok t
  | other => do return ⟨← other.toIdentifier, ""⟩

/-- The column definition that a part is. -/
def toColumn : Part → Except Fault Column
  | node (.expr (.column c)) => .ok c
  | other => .error (.notAColumn other.label)

/-- The conflict clause that a part is. -/
def toConflictClause : Part → Except Fault ConflictClause
  | node (.conflict c) => .ok c
  | other => .error (.notAConflictClause other.label)

/-- The select that a part is. -/
def toSelect : Part → Except Fault Select
  | node (.statement (.select query)) => .ok query
  | other => .error (.notASelect other.label)

end Part

/-- The target that a value names: only the noun itself does. -/
def target (value : Value) : Except Fault Target :=
  let target? : Option Target := match value with
    | .text noun => Target.ofNoun? noun
    | _ => none
  match target? with
  | some target => .ok target
  | none => .error (.unknownTarget value.literal)

/-- An optional part, made into what its place asks for. -/
def optionally {α : Type} (make : Part → Except Fault α) : Option Part → Except Fault (Option α)
  | none => .ok none
  | some part => do return some (← make part)

/-- Sets the value of a field: in its place if it is there, else at the end. -/
def putField {α : Type} : List (String × α) → String → α → List (String × α)
  | [], field, value => [(field, value)]
  | (field', value') :: rest, field, value =>
    if field' = field then (field, value) :: rest
    else (field', value') :: putField rest field value

/-- The fields of a mapping that is written entry by entry. -/
def fieldsOfMapping {α : Type} (entries : List (String × α)) : List (String × α) :=
  entries.foldl (fun fields entry => putField fields entry.1 entry.2) []

mutual

/-- What a draft amounts to. -/
def toPart : Draft → Except Fault Part
  | text s => .ok (.text s)
  | plain value => .ok (.plain value)
  | unqualified s => .ok (.node (.identifier (.name s)))
  | qualified container base => .ok (.node (.identifier (.qualified container base)))
  | key schema object field => .ok (.node (.key ⟨schema, object, field⟩))
  | literal s => .ok (.node (.expr (.literal s)))
  | ident identifier => do
    let identifier ← toPart identifier
    return .node (.expr (.ident (← identifier.toIdentifier)))
  | binary left operator right => do
    let left ← toPart left
    let right ← toPart right
    let left ← left.toExpr
    return .node (.expr (.binary left operator (← right.toExpr)))
  | assign field value => do
    let field ← toPart field
    let value ← toPart value
    let field ← field.toIdentifier
    return .node (.expr (.assign field (← value.toExpr)))
  | references table field onDelete onUpdate => do
    let table ← toPart table
    return .node (.expr (.references (← table.toIdentifier) field onDelete onUpdate))
  | column name dataType constraints => do
    let name ← toPart name
    let dataType ← toPart dataType
    let constraints ← toParts constraints
    let name ← name.toIdentifier
    let dataType ← dataType.toIdentifier
    return .node (.expr (.column (.define name dataType (← constraints.mapM Part.toExpr))))
  | tableBody columns => do
    let columns ← toParts columns
    return .node (.expr (.tableBody (← columns.mapM Part.toColumn)))
  | addColumn definition ifNotExists => do
    let definition ← toPart definition
    return .node (.expr (.addColumn (← definition.toColumn) ifNotExists))
  | dropColumn name => do
    let name ← toPart name
    return .node (.expr (.dropColumn (← name.toIdentifier)))
  | addConstraint name body => do
    let name ← toPart name
    let body ← toPart body
    let name ← name.toIdentifier
    return .node (.expr (.addConstraint name (← body.toExpr)))
  | renameTo newName => do
    let newName ← toPart newName
    return .node (.expr (.renameTo (← newName.toIdentifier)))
  | tableRef table shortName => do
    let table ← toPart table
    return .node (.tableRef ⟨← table.toIdentifier, shortName⟩)
  | conflict cause assignments => do
    let cause ← toPart cause
    let assignments ← toParts assignments
    let cause ← cause.toExpr
    return .node (.conflict ⟨cause, ← assignments.mapM Part.toExpr⟩)
  | alter noun name action => do
    let name ← toPart name
    let action ← toPart action
    let target ← target noun
    let name ← name.toIdentifier
    return .node (.statement (.alter target name (← action.toExpr)))
  | create noun name body ifNotExists => do
    let name ← toPart name
    let body ← toOptionalPart body
    let target ← target noun
    let name ← name.toIdentifier
    return .node (.statement (.create target name (← optionally Part.toExpr body) ifNotExists))
  | drop noun name => do
    let name ← toPart name
    let target ← target noun
    return .node (.statement (.drop target (← name.toIdentifier)))
  | insert table row onConflict => do
    let table ← toPart table
    let row ← toRow row
    let onConflict ← toOptionalPart onConflict
    let table ← table.toTableRef
    let row ← row.mapM fun (field, value) => do return (field, ← value.toExpr)
    return .node (.statement (.insert table row (← optionally Part.toConflictClause onConflict)))
  | update table assignments condition => do
    let table ← toPart table
    let assignments ← toParts assignments
    let condition ← toOptionalPart condition
    let table ← table.toTableRef
    let assignments ← assignments.mapM Part.toExpr
    return .node (.statement (.update table assignments (← optionally Part.toExpr condition)))
  | select columns source condition => do
    let columns ← toParts columns
    let source ← toPart source
    let condition ← toOptionalPart condition
    let columns ← columns.mapM Part.toExpr
    let source ← source.toTableRef
    return .node (.statement (.select ⟨columns, source, ← optionally Part.toExpr condition⟩))
  | withSelect name inner outer => do
    let inner ← toPart inner
    let outer ← toPart outer
    let inner ← inner.toSelect
    return .node (.statement (.withSelect name inner (← outer.toSelect)))

/-- What several drafts amount to, in order. -/
def toParts : List Draft → Except Fault (List Part)
  | [] => .ok []
  | first :: rest => do
    let part ← toPart first
    return part :: (← toParts rest)

/-- What an optional draft amounts to. -/
def toOptionalPart : Option Draft → Except Fault (Option Part)
  | none => .ok none
  | some draft => do return some (← toPart draft)

/-- What the values of an insert amount to, in order. -/
def toFields : List (String × Draft) → Except Fault (List (String × Part))
  | [] => .ok []
  | (field, value) :: rest => do
    let part ← toPart value
    return (field, part) :: (← toFields rest)

/-- The fields of an insert with what their values amount to. -/
def toRow : RowDraft → Except Fault (List (String × Part))
  | .pairs fields => toFields fields
  | .mapping fields => do return fieldsOfMapping (← toFields fields)

end

/-- The node of a draft; a text or another plain value by itself is none. -/
def build (draft : Draft) : Except Fault Node := do
  match ← draft.toPart with
  | .node n => return n
  | other => throw (.notAnExpression other.label)

/-- The SQL of a draft: a text as it is, or the text of an expression, of a conflict clause or of a
statement. -/
def sql (draft : Draft) : Except Fault String := do
  match ← draft.toPart with
  | .text s => return s
  | .node (.expr e) => return e.render
  | .node (.conflict c) => return c.render
  | .node (.statement s) => return s.render
  | other => throw (.notSql other.label)

/-! ### Resolving -/

/-- Why a draft resolves to no schema and object. -/
inductive ResolveFault where
  | unbuilt (cause : Fault)
  /-- What is written like this is no identifier. Here no text stands for one. -/
  | unsupported (shown : String)
  | unresolvable (cause : Identifier.Unresolvable)

/-- The text that reports a fault. -/
def ResolveFault.message : ResolveFault → String
  | unbuilt cause => cause.message
  | unsupported shown => "Unsupported identifier: " ++ shown
  | unresolvable cause => cause.message

/-- The schema and the object that an identifier names as an object of the kind that a noun names.
-/
def resolve (noun : Value) (name : Draft) : Except ResolveFault Identifier.Resolved := do
  let target ← (target noun).mapError .unbuilt
  match ← name.toPart.mapError .unbuilt with
  | .node (.identifier i) => (i.resolve target).mapError .unresolvable
  | .node other => throw (.unsupported other.form)
  | .text s => throw (.unsupported (Text.quoted s))
  | .plain value => throw (.unsupported value.literal)

end Draft

end SchemaMigration
