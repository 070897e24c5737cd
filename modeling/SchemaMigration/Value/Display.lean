import SchemaMigration.Number.Shortest
import SchemaMigration.Text.Quoted
import SchemaMigration.Value.Basic

/-!
# The text of a value

`Value.display` is the text that a value stands for where a document holds something else than text:
text is itself, a number is written in full. `Value.literal` is the form inside lists and mappings,
where texts are quoted and dates name their parts; a collection that is met again inside itself is
not written out once more. `Value.kindName` names the kind of a value in messages.
-/

namespace SchemaMigration

/-- A double is written positionally from 10^-4 up to below 10^16, and otherwise with an exponent of
at least two digits. -/
def doubleLayout : Decimal.Layout := ⟨-4, 16, 2⟩

/-- The text of a double: the fewest digits that read back, always with a point or an exponent. -/
def Double.render : Double → String
  | .nan => "nan"
  | .infinite negative => if negative then "-inf" else "inf"
  | .finite negative mantissa exponent =>
    (if negative then "-" else "") ++
      if mantissa = 0 then "0.0" else (Decimal.shortest mantissa exponent).render doubleLayout

/-- The parts of a date, with commas. -/
def Date.parts (date : Date) : List Nat := [date.year, date.month, date.day]

/-- The parts of a time of day; seconds and microseconds are left out from the end while they are
zero. -/
def Clock.parts (clock : Clock) : List Nat :=
  if clock.microsecond ≠ 0 then [clock.hour, clock.minute, clock.second, clock.microsecond]
  else if clock.second ≠ 0 then [clock.hour, clock.minute, clock.second]
  else [clock.hour, clock.minute]

/-- An offset from universal time, as days and seconds where it is not zero. -/
def offsetLiteral (minutes : Int) : String :=
  if minutes = 0 then "datetime.timezone.utc"
  else if 0 < minutes then
    s!"datetime.timezone(datetime.timedelta(seconds={minutes * 60}))"
  else
    s!"datetime.timezone(datetime.timedelta(days=-1, seconds={86400 + minutes * 60}))"

/-- A moment with its parts named. -/
def Moment.literal (moment : Moment) : String :=
  let parts := (moment.date.parts ++ moment.clock.parts).map toString
  let offset := match moment.offset with
    | none => []
    | some minutes => ["tzinfo=" ++ offsetLiteral minutes]
  "datetime.datetime(" ++ ", ".intercalate (parts ++ offset) ++ ")"

namespace Value

/-- What is written for a collection inside itself. -/
def ellipsis : Value → String
  | list _ => "[...]"
  | _ => "\x7b...\x7d"

mutual

/-- The form of a value inside the looped collections with the given numbers. -/
def literalWithin (outer : List Nat) : Value → String
  | null => "None"
  | bool b => if b then "True" else "False"
  | int n => toString n
  | float x => x.render
  | text s => Text.quoted s
  | brokenText codes => Text.quotedCodePoints codes
  | bytes data => Text.quotedBytes data
  | date d => "datetime.date(" ++ ", ".intercalate (d.parts.map toString) ++ ")"
  | moment m => m.literal
  | clock c => "datetime.time(" ++ ", ".intercalate (c.parts.map toString) ++ ")"
  | list items => "[" ++ ", ".intercalate (literals outer items) ++ "]"
  | mapping entries => "\x7b" ++ ", ".intercalate (entryLiterals outer entries) ++ "\x7d"
  | set members =>
    if members.isEmpty then "set()"
    else "\x7b" ++ ", ".intercalate (literals outer members) ++ "\x7d"
  | pair first second =>
    "(" ++ first.literalWithin outer ++ ", " ++ second.literalWithin outer ++ ")"
  | looped id ⟨collection⟩ =>
    if outer.contains id then (collection ()).ellipsis
    else (collection ()).literalWithin (id :: outer)

/-- The forms of several values, in order. -/
def literals (outer : List Nat) : List Value → List String
  | [] => []
  | first :: rest => first.literalWithin outer :: literals outer rest

/-- The forms of the entries of a mapping, in order. -/
def entryLiterals (outer : List Nat) : List (Value × Value) → List String
  | [] => []
  | (key, value) :: rest =>
    (key.literalWithin outer ++ ": " ++ value.literalWithin outer) :: entryLiterals outer rest

end

/-- The form of a value inside a list or a mapping. -/
def literal (value : Value) : String := value.literalWithin []

/-- The text that a value stands for. -/
def display : Value → String
  | text s => s
  | brokenText codes => String.ofList (codes.map (·.shown))
  | date d => d.render
  | moment m => m.render
  | clock c => c.render
  | other => other.literal

/-- The name of the kind of a value. -/
def kindName : Value → String
  | null => "NoneType"
  | bool _ => "bool"
  | int _ => "int"
  | float _ => "float"
  | text _ => "str"
  | brokenText _ => "str"
  | bytes _ => "bytes"
  | date _ => "date"
  | moment _ => "datetime"
  | clock _ => "time"
  | list _ => "list"
  | mapping _ => "dict"
  | set _ => "set"
  | pair _ _ => "tuple"
  | looped _ ⟨collection⟩ => (collection ()).kindName

end Value

end SchemaMigration
