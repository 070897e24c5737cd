import SchemaMigration.Number.Numeral
import SchemaMigration.Text.Blank
import SchemaMigration.Text.Likeness
import SchemaMigration.Text.UpperCase

/-!
# Selecting a SQL dialect

A text selects a dialect by its name, which is written exactly. Settings may follow the name, each
behind a comma: a version, and how names are compared. White space around a name does not count.
What is wrong with a selection is found in this order: the name, the version, the comparison of
names, and other settings.
-/

namespace SchemaMigration.Dialect

/-- What a setting is set to. -/
inductive SettingValue where
  /-- A setting without a value is on; some words count as on or off. -/
  | flag (on : Bool)
  | text (s : String)
  /-- More than one value. -/
  | unclear
  deriving DecidableEq

/-- A dialect with settings. -/
structure Selection where
  name : String
  settings : List (String × SettingValue)
  deriving DecidableEq

/-- Why a selection selects nothing. -/
inductive Fault where
  /-- None of the known dialects has the name. -/
  | unknownName (name : String) (known : List String)
  /-- A part of the version is no number. -/
  | badVersion (cause : Numeral.Fault)
  /-- How names are compared has to be a word. -/
  | comparisonNotText
  | unknownComparison (name : String)
  | unknownSetting (name : String)
  deriving DecidableEq

/-- The parts of a text between characters of one kind. -/
def splitAt (separator : Char) (text : String) : List String :=
  (text.toList.splitOn separator).map String.ofList

/-! ### Reading -/

/-- What a word sets a setting to. -/
def SettingValue.ofWord (word : String) : SettingValue :=
  match Text.lower word with
  | "true" => flag true
  | "1" => flag true
  | "false" => flag false
  | "0" => flag false
  | _ => text word

/-- The name and the value of a setting. -/
def settingOf (text : String) : String × SettingValue :=
  match splitAt '=' text with
  | [] => ("", .flag true)
  | [name] => (Text.trim name, .flag true)
  | [name, word] => (Text.trim name, .ofWord (Text.trim word))
  | name :: _ => (Text.trim name, .unclear)

/-- The selection that a text writes. -/
def Selection.ofText (text : String) : Selection :=
  match splitAt ',' text with
  | [] => ⟨"", []⟩
  | name :: settings => ⟨name, settings.map settingOf⟩

namespace Selection

/-- The value of a setting; the last one counts. -/
def value? (selection : Selection) (name : String) : Option SettingValue :=
  (selection.settings.reverse.find? (·.1 = name)).map (·.2)

/-! ### Checking -/

/-- The setting for the version. -/
def versionName : String := "version"

/-- The setting for how names are compared. -/
def comparisonName : String := "normalization_strategy"

/-- The ways to compare names. -/
def comparisons : List String :=
  ["LOWERCASE", "UPPERCASE", "CASE_SENSITIVE", "CASE_INSENSITIVE", "CASE_INSENSITIVE_UPPERCASE"]

/-- How many parts of a version count. -/
def versionLength : Nat := 3

/-- The text of a value where a version is expected. -/
def versionText : SettingValue → String
  | .flag on => if on then "True" else "False"
  | .text s => s
  | .unclear => "None"

/-- The parts of a version are numbers. -/
def checkVersion : Option SettingValue → Except Fault Unit
  | none => .ok ()
  | some value => do
    for part in (splitAt '.' (versionText value)).take versionLength do
      let _ ← (Numeral.toInt 10 (Text.ofChars part.toList)).mapError .badVersion

/-- How names are compared is one of a few words, in any case. -/
def checkComparison : Option SettingValue → Except Fault Unit
  | some (.flag _) => .error .comparisonNotText
  | some (.text s) =>
    let name := Text.upper s
    if comparisons.contains name then .ok () else .error (.unknownComparison name)
  | _ => .ok ()

/-- A selection selects one of the known dialects. -/
def check (known : List String) (selection : Selection) : Except Fault Unit := do
  if !known.contains (Text.trim selection.name) then throw (.unknownName selection.name known)
  checkVersion (selection.value? versionName)
  checkComparison (selection.value? comparisonName)
  let isUnknown (setting : String × SettingValue) : Bool :=
    setting.1 ≠ versionName && setting.1 ≠ comparisonName
  match selection.settings.find? isUnknown with
  | some (name, _) => throw (.unknownSetting name)
  | none => return

end Selection

/-- Checks that a text selects one of the known dialects. -/
def check (known : List String) (text : String) : Except Fault Unit :=
  (Selection.ofText text).check known

/-! ### Messages -/

/-- The text that proposes the known word that is most alike to an unknown one. -/
def proposal (words : List String) (word : String) : String :=
  match Text.Likeness.closest? words word with
  | some other => if other = "" then "" else " Did you mean " ++ other ++ "?"
  | none => ""

/-- The text that reports a fault. -/
def Fault.message : Fault → String
  | unknownName name known => "Unknown dialect '" ++ name ++ "'." ++ proposal known name
  | badVersion cause => cause.message
  | comparisonNotText => "'bool' object has no attribute 'upper'"
  | unknownComparison name => Text.quoted name ++ " is not a valid NormalizationStrategy"
  | unknownSetting name =>
    "Unknown setting '" ++ name ++ "'." ++
      proposal [Selection.versionName, Selection.comparisonName] name

/-- Is a value of the wrong kind the cause, and not the text of a value? -/
def Fault.isWrongKind : Fault → Bool
  | comparisonNotText => true
  | _ => false

end SchemaMigration.Dialect
