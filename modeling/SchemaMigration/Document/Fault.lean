import SchemaMigration.Document.Location
import SchemaMigration.Value.Flag

/-!
# What can be wrong with a document of statements

A fault has a reason and a path from the value that was read to the place of the fault. Reading a
part of a value and stepping into it are kept apart: `Loading.under` puts a step in front of the
path of a fault, so that no reader has to know where its value stands in the document.
-/

namespace SchemaMigration.Document

/-- The reason why a document is refused. -/
inductive Reason where
  /-- A key is absent, or its value is null. -/
  | missing (key : String)
  | unknownStatementKind (kind : String)
  | unknownExpressionKind (kind : String)
  | unknownTarget (text : String)
  /-- A value of this kind is no expression. -/
  | notAnExpression (kindName : String)
  /-- A value of this kind is no identifier. -/
  | notAnIdentifier (kindName : String)
  /-- A value that should be a flag is none. -/
  | notAFlag (value : Value)
  | statementNotMapping
  | columnNotMapping
  | selectNotMapping
  | conflictNotMapping
  | pairNotMapping
  | valuesShape
  | notAList
  | notABatch
  /-- The name of a file has no known ending. -/
  | unsupportedFile
  /-- A file cannot be read, for the reason that the system gives. -/
  | unreadable (cause : String)
  | notJson (cause : String)
  | notYaml
  /-- A value whose text is needed has an integer of too many digits in it. -/
  | notShowable

/-- The text of a reason. -/
def Reason.message : Reason → String
  | missing key => "missing '" ++ key ++ "'"
  | unknownStatementKind kind => "unknown statement kind '" ++ kind ++ "'"
  | unknownExpressionKind kind => "unknown expression kind '" ++ kind ++ "'"
  | unknownTarget text => "unknown target '" ++ text ++ "'"
  | notAnExpression kindName => "cannot build an expression from " ++ kindName
  | notAnIdentifier kindName => "cannot build an identifier from " ++ kindName
  | notAFlag value => value.flagMessage
  | statementNotMapping => "statement must be a mapping"
  | columnNotMapping => "field must be a mapping"
  | selectNotMapping => "expected a select mapping"
  | conflictNotMapping => "on_conflict must be a mapping"
  | pairNotMapping => "value must be a mapping with 'field' and 'value'"
  | valuesShape => "expected a mapping or a list of field/value pairs"
  | notAList => "expected a list"
  | notABatch => "expected a list of statements"
  | unsupportedFile => "unsupported file type (expected .json, .yaml, .yml)"
  | unreadable cause => "cannot read file: " ++ cause
  | notJson cause => "cannot parse json: " ++ cause
  | notYaml => "cannot parse yaml: the text is not well-formed"
  | notShowable => Digits.unwritableMessage

/-- Is the reason reported together with its place? -/
def Reason.isPlaced : Reason → Bool
  | notShowable => false
  | _ => true

/-- A reason and where in the value it arose. -/
structure Fault where
  path : Path
  reason : Reason

/-- A fault of a document that has a name. -/
structure LoadError where
  name : String
  fault : Fault

/-- Where in the named document the fault lies. -/
def LoadError.location (error : LoadError) : String :=
  error.name ++ error.fault.path.render

/-- The text that reports the error. -/
def LoadError.message (error : LoadError) : String :=
  let reason := error.fault.reason
  if reason.isPlaced then
    "Invalid statement document at '" ++ error.location ++ "': " ++ reason.message
  else reason.message

/-- A fault of a document as a whole. -/
def LoadError.whole (name : String) (reason : Reason) : LoadError :=
  ⟨name, ⟨[], reason⟩⟩

/-- What is read from a value, or the first fault in it. -/
abbrev Loading := Except Fault

namespace Loading

/-- The result is refused at the value itself. -/
def refuse {α : Type} (reason : Reason) : Loading α :=
  .error ⟨[], reason⟩

/-- The result was read one step further inside: a fault lies behind that step. -/
def under {α : Type} (step : Step) : Loading α → Loading α
  | .ok result => .ok result
  | .error fault => .error ⟨step :: fault.path, fault.reason⟩

/-- The result was read from the document of this name. -/
def named {α : Type} (name : String) (loading : Loading α) : Except LoadError α :=
  loading.mapError fun fault => ⟨name, fault⟩

end Loading

/-- The text of a value. -/
def shown (value : Value) : Loading String :=
  if value.isShowable then .ok value.display else Loading.refuse .notShowable

/-! ### Keys of a mapping -/

/-- The value of a key that has to be there; null counts as absent. The value is smaller than the
mapping. -/
def require (entries : Entries) (key : String) :
    Loading { value : Value // sizeOf value < sizeOf entries } :=
  match h : entries.get? key with
  | none => Loading.refuse (.missing key)
  | some value =>
    if value.isNull then Loading.refuse (.missing key)
    else .ok ⟨value, Entries.sizeOf_get?_lt h⟩

/-- The value of a key that may be absent or null. -/
def optional (entries : Entries) (key : String) :
    Option { value : Value // sizeOf value < sizeOf entries } :=
  match h : entries.get? key with
  | none => none
  | some value => if value.isNull then none else some ⟨value, Entries.sizeOf_get?_lt h⟩

/-- The items of the list under a key that may be absent; anything else there, null included, is
refused. The items are smaller than the mapping. -/
def optionalList (entries : Entries) (key : String) :
    Loading (Option { items : List Value // sizeOf items < sizeOf entries }) :=
  match h : entries.get? key with
  | none => .ok none
  | some value =>
    match hc : value.content with
    | .list items =>
      .ok (some ⟨items, Nat.lt_trans (Value.sizeOf_lt_of_content_eq_list hc)
        (Entries.sizeOf_get?_lt h)⟩)
    | _ => (Loading.refuse .notAList).under (.key key)

/-- The text of a key's value; empty when the value is absent, empty, zero or false. -/
def textOrEmpty (entries : Entries) (key : String) : Loading String :=
  match entries.get? key with
  | some value => if value.isTruthy then shown value else .ok ""
  | none => .ok ""

/-- The flag under a key; an absent flag is off. -/
def flag (entries : Entries) (key : String) : Loading Bool :=
  match optional entries key with
  | none => .ok false
  | some value =>
    match value.1.toFlag? with
    | some b => .ok b
    | none => (Loading.refuse (.notAFlag value.1)).under (.key key)

/-- The kind that a mapping names, in lower case. -/
def kindText (entries : Entries) : Loading String := do
  let kind ← require entries "kind"
  return Text.lower (← shown kind.1)

end SchemaMigration.Document
