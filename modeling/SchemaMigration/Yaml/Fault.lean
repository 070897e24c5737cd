import SchemaMigration.Calendar
import SchemaMigration.Number.Numeral
import SchemaMigration.Text.Utf8

/-!
# What can be wrong with a YAML text

Most faults are faults of the text. Some texts are well-formed, but a scalar in them cannot be made
into a value of its type; these causes are told apart, because their wording is.
-/

namespace SchemaMigration.Yaml

/-- Why a text holds no value. -/
inductive Fault where
  /-- The text is not YAML, or names a type that does not fit. -/
  | malformed
  /-- The bytes of the text cannot be decoded. -/
  | undecodable (fault : Text.Utf8Fault)
  /-- An escape names a code above that of the last character. -/
  | codeOutOfRange
  /-- An escape names a code above that of every signed integer of 32 bits. -/
  | codeTooLarge
  /-- The text cannot be read as a number. -/
  | badNumber (cause : Numeral.Fault)
  /-- A number in base sixty has so many parts that the weight of one is above every double. -/
  | weightTooLarge
  /-- The text is no word for a boolean. -/
  | notABool (text : List Text.CodePoint)
  /-- The text is no timestamp. -/
  | notATimestamp
  /-- A mapping stands for a timestamp, which has to be written as a scalar. -/
  | timestampNotScalar
  /-- A number without any digit. -/
  | noDigits
  | badDate (cause : Date.Fault)
  | badClock (cause : Clock.Fault)
  /-- An offset of a day or more. -/
  | badOffset (minutes : Int)

/-- Results of reading YAML. -/
abbrev Reading := Except Fault

end SchemaMigration.Yaml
