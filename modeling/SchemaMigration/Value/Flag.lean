import SchemaMigration.Text.Blank
import SchemaMigration.Text.LowerCase
import SchemaMigration.Value.Display

/-!
# Flags in documents and in settings

A flag is a boolean or one of eight words for one; white space around the word and its case do not
count.
-/

namespace SchemaMigration

/-- The words for true. -/
def trueWords : List String := ["1", "true", "yes", "on"]

/-- The words for false. -/
def falseWords : List String := ["0", "false", "no", "off"]

/-- The boolean that a word stands for. -/
def flagOfWord? (word : String) : Option Bool :=
  if trueWords.contains word then some true
  else if falseWords.contains word then some false
  else none

/-- The boolean that a value stands for; a value that is none is judged by its text, if it has one.
-/
def Value.toFlag? : Value → Option Bool
  | .bool b => some b
  | value =>
    if value.isShowable then flagOfWord? (Text.lower (Text.trim value.display)) else none

/-- The text that reports a value that stands for no boolean. -/
def Value.flagMessage (value : Value) : String :=
  if value.isShowable then "Invalid boolean value '" ++ value.display ++ "'"
  else Digits.unwritableMessage

end SchemaMigration
