import SchemaMigration.ErrorClass
import SchemaMigration.Value.Display
import SchemaMigration.Yaml.Assembly
import SchemaMigration.Yaml.Making

/-!
# Reading YAML text
-/

namespace SchemaMigration.Yaml

/-- The value of the one document that a text holds; a text without a document holds null. -/
def read (source : Source) : Except Fault Value := do
  match ← Document.ofTokens (Tokens.ofSource source) with
  | some document => document.value
  | none => return .null

/-- An amount of minutes as days and seconds, both written only if they are needed. -/
def spanText (minutes : Int) : String :=
  let days := minutes / (24 * 60)
  let seconds := minutes % (24 * 60) * 60
  let parts := (if days = 0 then [] else [s!"days={days}"]) ++
    (if seconds = 0 then [] else [s!"seconds={seconds}"])
  "datetime.timedelta(" ++ (if parts.isEmpty then "0" else ", ".intercalate parts) ++ ")"

/-- The text that reports a scalar that has no value of its type; malformed text is not explained.
-/
def Fault.message : Fault → String
  | malformed => ""
  | undecodable fault => fault.message
  | codeOutOfRange => "chr() arg not in range(0x110000)"
  | codeTooLarge => "Python int too large to convert to C int"
  | badNumber cause => cause.message
  | weightTooLarge => "int too large to convert to float"
  | notABool text => Text.quotedCodePoints text
  | notATimestamp => "'NoneType' object has no attribute 'groupdict'"
  | timestampNotScalar => "expected string or bytes-like object, got 'list'"
  | noDigits => "string index out of range"
  | badDate (.year year) => s!"year {year} is out of range"
  | badDate .month => "month must be in 1..12"
  | badDate .day => "day is out of range for month"
  | badClock .hour => "hour must be in 0..23"
  | badClock .minute => "minute must be in 0..59"
  | badClock .second => "second must be in 0..59"
  | badOffset minutes =>
    "offset must be a timedelta strictly between -timedelta(hours=24) and timedelta(hours=24), " ++
      s!"not {spanText minutes}."

/-- The class of a fault. A word that is no boolean is missed in a table of words; a text that is no
timestamp leaves nothing that has parts. -/
def Fault.errorClass : Fault → ErrorClass
  | malformed => .other
  | undecodable _ => .unicodeDecodeError
  | codeOutOfRange => .valueError
  | codeTooLarge => .overflowError
  | badNumber _ => .valueError
  | weightTooLarge => .overflowError
  | notABool _ => .keyError
  | notATimestamp => .attributeError
  | timestampNotScalar => .typeError
  | noDigits => .indexError
  | badDate _ => .valueError
  | badClock _ => .valueError
  | badOffset _ => .valueError

end SchemaMigration.Yaml
