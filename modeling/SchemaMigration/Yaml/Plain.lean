import SchemaMigration.Text.CodePoint
import SchemaMigration.Yaml.Character
import SchemaMigration.Yaml.Tag

/-!
# What a plain scalar means

A scalar without quotes and without a tag may be null, a boolean, a number or a date, as YAML 1.1
has it; everything else is text. `plainTag` tells which. One line feed at the end of a scalar does
not count, which matters for quoted scalars and blocks that are to be taken as plain ones.
-/

namespace SchemaMigration.Yaml

/-- The scalars that mean null. -/
def nullWords : List String := ["", "~", "null", "Null", "NULL"]

/-- The scalars that mean true. -/
def trueWords : List String := ["yes", "Yes", "YES", "true", "True", "TRUE", "on", "On", "ON"]

/-- The scalars that mean false. -/
def falseWords : List String := ["no", "No", "NO", "false", "False", "FALSE", "off", "Off", "OFF"]

/-- What follows a sign, or everything where there is none. -/
def dropSign : List Char → List Char
  | '+' :: rest => rest
  | '-' :: rest => rest
  | cs => cs

/-- A digit, or the underscore that may stand between digits. -/
def isDigitOrUnderscore (c : Char) : Bool :=
  c.isDigit || c = '_'

/-- Is the text not empty and made of characters of the class only? -/
def isAll (p : Char → Bool) (cs : List Char) : Bool :=
  !cs.isEmpty && cs.all p

/-- Does the text start with a digit, with only digits and underscores behind it? -/
def isDigits : List Char → Bool
  | c :: rest => c.isDigit && rest.all isDigitOrUnderscore
  | [] => false

/-- Is the text digits and underscores that start with a digit other than zero? -/
def isDecimal (cs : List Char) : Bool :=
  isDigits cs && cs.head? ≠ some '0'

/-- The parts between colons. -/
def splitColons (cs : List Char) : List (List Char) :=
  cs.splitOn ':'

/-- Is the text a count of sixtieths: one digit, or two of which the first is below six? -/
def isSixtieth : List Char → Bool
  | [c] => c.isDigit
  | [b, c] => '0' ≤ b && b ≤ '5' && c.isDigit
  | _ => false

/-- Is it an integer without its sign? -/
def isMagnitude (cs : List Char) : Bool :=
  match cs with
  | ['0'] => true
  | '0' :: 'b' :: rest => isAll (fun c => c = '0' || c = '1' || c = '_') rest
  | '0' :: 'x' :: rest =>
    isAll (fun c => c.isDigit || ('a' ≤ c && c ≤ 'f') || ('A' ≤ c && c ≤ 'F') || c = '_') rest
  | '0' :: rest => isAll (fun c => ('0' ≤ c && c ≤ '7') || c = '_') rest
  | _ =>
    match splitColons cs with
    | [digits] => isDecimal digits
    | first :: parts => isDecimal first && parts.all isSixtieth
    | [] => false

/-- Is the scalar an integer: binary, octal, decimal, hexadecimal or in base sixty? -/
def isInt (cs : List Char) : Bool :=
  isMagnitude (dropSign cs)

/-- Is the text an exponent with a sign, or nothing? -/
def isExponent : List Char → Bool
  | [] => true
  | e :: sign :: digits =>
    (e = 'e' || e = 'E') && (sign = '+' || sign = '-') && isAll Char.isDigit digits
  | _ => false

/-- Is it a fraction behind the point, with an exponent or none? -/
def isFraction (cs : List Char) : Bool :=
  isExponent (cs.dropWhile isDigitOrUnderscore)

/-- The parts before and after the first point. -/
def splitPoint (cs : List Char) : Option (List Char × List Char) :=
  match cs.dropWhile (· ≠ '.') with
  | _ :: after => some (cs.takeWhile (· ≠ '.'), after)
  | [] => none

/-- Is the scalar a floating-point number? It has to have a point. -/
def isFloat (cs : List Char) : Bool :=
  match splitPoint cs with
  | none => false
  | some (whole, after) =>
    if whole.isEmpty then
      ["inf", "Inf", "INF", "nan", "NaN", "NAN"].contains (String.ofList after) ||
        (isDigits (after.takeWhile isDigitOrUnderscore) && isFraction after)
    else
      let magnitude := dropSign whole
      if magnitude.isEmpty then ["inf", "Inf", "INF"].contains (String.ofList after)
      else
        match splitColons magnitude with
        | [digits] => isDigits digits && isFraction after
        | first :: parts =>
          isDigits first && parts.all isSixtieth && after.all isDigitOrUnderscore
        | [] => false

/-! ### Timestamps -/

/-- The parts of a timestamp as they are written. -/
structure Stamp where
  year : List Char
  month : List Char
  day : List Char
  /-- Hour, minute, second and the digits behind the second. -/
  clock : Option (List Char × List Char × List Char × List Char)
  /-- The sign, the hours and the minutes of an offset; universal time has no sign. -/
  zone : Option (Option Char × List Char × List Char)

/-- Between `least` and `most` digits at the front, as many as there are. -/
def takeDigits (least most : Nat) (cs : List Char) : Option (List Char × List Char) :=
  let digits := (cs.take most).takeWhile Char.isDigit
  if digits.length < least then none else some (digits, cs.drop digits.length)

/-- What follows the given character. -/
def dropChar (c : Char) : List Char → Option (List Char)
  | [] => none
  | d :: rest => if c = d then some rest else none

/-- The offset at the end of a timestamp. -/
def readZone (cs : List Char) : Option (Option (Option Char × List Char × List Char)) :=
  match cs.dropWhile isSpaceOrTab with
  | [] => if cs.isEmpty then some none else none
  | ['Z'] => some (some (none, [], []))
  | sign :: rest =>
    if sign = '+' ∨ sign = '-' then do
      let (hours, rest) ← takeDigits 1 2 rest
      match rest with
      | [] => return some (some sign, hours, [])
      | ':' :: minutes =>
        let (minutes, rest) ← takeDigits 2 2 minutes
        if rest.isEmpty then return some (some sign, hours, minutes) else none
      | _ => none
    else none

/-- The time of day of a timestamp, and its offset. -/
def readClock (stamp : Stamp) (cs : List Char) : Option Stamp := do
  let (hour, cs) ← takeDigits 1 2 cs
  let (minute, cs) ← takeDigits 2 2 (← dropChar ':' cs)
  let (second, cs) ← takeDigits 2 2 (← dropChar ':' cs)
  let (fraction, cs) := match cs with
    | '.' :: rest => (rest.takeWhile Char.isDigit, rest.dropWhile Char.isDigit)
    | _ => ([], cs)
  return { stamp with clock := some (hour, minute, second, fraction), zone := ← readZone cs }

/-- The parts of a timestamp, if the text is one. -/
def readStamp (cs : List Char) : Option Stamp := do
  let (year, cs) ← takeDigits 4 4 cs
  let (month, cs) ← takeDigits 1 2 (← dropChar '-' cs)
  let (day, cs) ← takeDigits 1 2 (← dropChar '-' cs)
  let stamp : Stamp := ⟨year, month, day, none, none⟩
  match cs with
  | [] => return stamp
  | c :: rest =>
    if c = 'T' ∨ c = 't' then readClock stamp rest
    else if isSpaceOrTab c then readClock stamp (rest.dropWhile isSpaceOrTab)
    else none

/-- Is the scalar a timestamp? A date by itself has to be written in full. -/
def isTimestamp (cs : List Char) : Bool :=
  match readStamp cs with
  | none => false
  | some stamp => stamp.clock.isSome || (stamp.month.length = 2 && stamp.day.length = 2)

/-- The text without the line feed at its end, if that does not stand alone. -/
def dropLineFeed (cs : List Char) : List Char :=
  if cs.getLast? = some '\n' && cs ≠ ['\n'] then cs.dropLast else cs

/-- The type of a scalar that is one line. -/
def lineTag (cs : List Char) : Tag :=
  let text := String.ofList cs
  if trueWords.contains text || falseWords.contains text then .bool
  else if isFloat cs then .float
  else if isInt cs then .int
  else if text = "<<" then .merge
  else if nullWords.contains text then .null
  else if isTimestamp cs then .timestamp
  else if text = "=" then .value
  else if ["!", "&", "*"].contains text then Tag.mark
  else .text

/-- The type of a plain scalar. -/
def plainTag (text : List Text.CodePoint) : Tag :=
  match Text.chars? text with
  | some cs => lineTag (dropLineFeed cs)
  | none => .text

end SchemaMigration.Yaml
