import SchemaMigration.Batch.Script
import SchemaMigration.Files.Decoding
import SchemaMigration.Files.Tree
import SchemaMigration.OutputFormat
import SchemaMigration.Value.Flag

/-!
# Settings for checking and writing batches

Settings are made from a table of values that may come from a file or from the environment. Each has
a value that it takes when it is not set.
-/

namespace SchemaMigration

/-- The settings of a run. -/
structure Settings where
  /-- The SQL dialect that rendered statements are checked against. -/
  dialect : String
  /-- Is every rendered statement checked? -/
  validate : Bool
  /-- The format of edge documents. -/
  outputFormat : OutputFormat
  /-- What ends every statement of a script. -/
  terminator : String
  deriving DecidableEq

/-- The dialect when none is set. -/
def defaultDialect : String := "postgres"

namespace Settings

/-- Why there are no settings. -/
inductive Fault where
  | unknownFormat (name : String)
  | notAFlag (value : Value)
  /-- The bytes of a settings file are no text. -/
  | notText (fault : Text.Utf8Fault)
  /-- A settings file has an integer with too many digits. -/
  | tooManyDigits (count : Nat)
  /-- A setting has to be shown as a text, but has an integer of too many digits in it. -/
  | notShowable
  /-- The system refuses to look for a settings file. -/
  | refused (error : FileError)
  /-- The entry for tools is no table. -/
  | toolsNotTable (value : Value)
  /-- The settings are no table and cannot be read as pairs. -/
  | notPairs (value : Value)
  /-- A member of a list of settings is neither a list nor a text. -/
  | notAPair (index : Nat)
  /-- A member of a list of settings has not two parts. -/
  | wrongLength (index length : Nat)
  /-- The first part of a pair is a list or a table. -/
  | notAKey (value : Value)

/-- The name of the kind of a value; that of a date or a time tells where it comes from. -/
def typeName : Value → String
  | .date _ => "datetime.date"
  | .moment _ => "datetime.datetime"
  | .clock _ => "datetime.time"
  | value => value.kindName

/-- The text that reports a fault. -/
def Fault.message : Fault → String
  | unknownFormat name => "Invalid output format '" ++ name ++ "'. Must be one of: " ++
      OutputFormat.choices
  | notAFlag value => value.flagMessage
  | notText fault => fault.message
  | notShowable => Digits.unwritableMessage
  | refused error => error.message
  | tooManyDigits count => Digits.unreadableMessage count
  | toolsNotTable value => "'" ++ typeName value ++ "' object has no attribute 'get'"
  | notPairs value => "'" ++ typeName value ++ "' object is not iterable"
  | notAPair index =>
    s!"cannot convert dictionary update sequence element #{index} to a sequence"
  | wrongLength index length =>
    s!"dictionary update sequence element #{index} has length {length}; 2 is required"
  | notAKey value => "unhashable type: '" ++ typeName value ++ "'"

/-- The class of a fault. -/
def Fault.errorClass : Fault → ErrorClass
  | unknownFormat _ => .valueError
  | notAFlag _ => .valueError
  | notText _ => .unicodeDecodeError
  | tooManyDigits _ => .valueError
  | notShowable => .valueError
  | refused error => error.errorClass
  | toolsNotTable _ => .attributeError
  | notPairs _ => .typeError
  | notAPair _ => .typeError
  | wrongLength _ _ => .valueError
  | notAKey _ => .typeError

/-- The text of a setting. -/
def shown (value : Value) : Except Fault String :=
  if value.isShowable then .ok value.display else .error .notShowable

/-- The dialect that a table sets; one that is empty or false counts as not set. -/
def dialectOf (entries : Entries) : Except Fault String :=
  match entries.get? "dialect" with
  | some value => if value.isTruthy then shown value else .ok defaultDialect
  | none => .ok defaultDialect

/-- Does a table ask for checks? -/
def validateOf (entries : Entries) : Except Fault Bool :=
  match entries.get? "validate" with
  | none => .ok false
  | some value =>
    match value.toFlag? with
    | some b => .ok b
    | none => .error (.notAFlag value)

/-- The format that a table names; case does not count. -/
def outputFormatOf (entries : Entries) : Except Fault OutputFormat :=
  match entries.get? "output_format" with
  | none => .ok .json
  | some value => do
    let name := Text.lower (← shown value)
    match OutputFormat.ofName? name with
    | some format => return format
    | none => throw (.unknownFormat name)

/-- The terminator that a table sets. -/
def terminatorOf (entries : Entries) : Except Fault String :=
  match entries.get? "terminator" with
  | some value => shown value
  | none => .ok defaultTerminator

/-- The settings of a table; the format is looked at first. -/
def ofEntries (entries : Entries) : Except Fault Settings := do
  let outputFormat ← outputFormatOf entries
  let dialect ← dialectOf entries
  let validate ← validateOf entries
  return ⟨dialect, validate, outputFormat, ← terminatorOf entries⟩

end Settings

end SchemaMigration
