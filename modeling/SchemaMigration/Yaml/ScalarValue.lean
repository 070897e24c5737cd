import SchemaMigration.Text.LowerCase
import SchemaMigration.Value.Basic
import SchemaMigration.Yaml.Base64
import SchemaMigration.Yaml.Fault
import SchemaMigration.Yaml.Plain

/-!
# The values of YAML scalars

A tag decides what a scalar becomes. A scalar whose text does not fit its tag has no value, and the
fault tells why.
-/

namespace SchemaMigration.Yaml

open Text

/-! ### Numbers -/

/-- The text without underscores. -/
def dropUnderscores (text : List CodePoint) : List CodePoint := text.filter (· ≠ .char '_')

/-- What follows the sign of a number, and whether that is a minus; something has to follow it. -/
def splitSign (text : List CodePoint) : Reading (Bool × List CodePoint) :=
  match text with
  | [] => .error .noDigits
  | .char '-' :: rest => .ok (true, rest)
  | .char '+' :: rest => .ok (false, rest)
  | text => .ok (false, text)

/-- The parts between colons. -/
def splitAtColons (text : List CodePoint) : List (List CodePoint) :=
  text.splitOn (.char ':')

/-- The integer that a text writes in a base. -/
def readInt (base : Nat) (text : List CodePoint) : Reading Int :=
  (Numeral.toInt base text).mapError .badNumber

/-- The double that a text writes. -/
def readDouble (text : List CodePoint) : Reading Double :=
  (Numeral.toDouble text).mapError .badNumber

/-- The integer that counts sixtieths, written from the largest unit on. -/
def readSixtieths (parts : List (List CodePoint)) : Reading Int := do
  let numbers ← parts.mapM (readInt 10)
  return numbers.foldl (fun n part => n * 60 + part) 0

/-- The integer of a scalar. -/
def toInt (text : List CodePoint) : Reading Int := do
  let (negative, unsigned) ← splitSign (dropUnderscores text)
  let n ← match unsigned with
    | [] => throw .noDigits
    | .char '0' :: .char 'b' :: rest => readInt 2 rest
    | .char '0' :: .char 'x' :: rest => readInt 16 rest
    | .char '0' :: _ => readInt 8 unsigned
    | _ =>
      if unsigned.contains (.char ':') then readSixtieths (splitAtColons unsigned)
      else readInt 10 unsigned
  return if negative then -n else n

/-- The sum of sixtieths, written from the largest unit on: the weights are exact and the sums and
products rounded. -/
def sumSixtieths (parts : List Double) : Reading Double := do
  let (sum, _) ← parts.reverse.foldlM
    (fun (sum, weight) part =>
      match Double.ofNat? weight with
      | some x => return (sum.add (part.mul x), weight * 60)
      | none => throw .weightTooLarge)
    (Double.zero false, 1)
  return sum

/-- The text of a double in lower case, without underscores and sign. -/
def doubleText (text : List CodePoint) : Reading (Bool × List CodePoint) :=
  splitSign (lowerCodePoints (dropUnderscores text))

/-- Is the text the word for no number, with or without a sign? -/
def isNoNumberWord (text : List CodePoint) : Bool :=
  match doubleText text with
  | .ok (_, unsigned) => isChars ".nan" unsigned
  | .error _ => false

/-- The double of a scalar. -/
def toDouble (text : List CodePoint) : Reading Double := do
  let (negative, unsigned) ← doubleText text
  let x ←
    if isChars ".inf" unsigned then pure (.infinite false)
    else if isChars ".nan" unsigned then pure .nan
    else if unsigned.contains (.char ':') then
      sumSixtieths (← (splitAtColons unsigned).mapM readDouble)
    else readDouble unsigned
  return if negative then x.negate else x

/-! ### Other scalars -/

/-- The words for booleans, in lower case. -/
def boolWords : List (String × Bool) :=
  [("yes", true), ("no", false), ("true", true), ("false", false), ("on", true), ("off", false)]

/-- The boolean of a scalar. -/
def toBool (text : List CodePoint) : Reading Bool :=
  let word := lowerCodePoints text
  match boolWords.find? fun entry => isChars entry.1 word with
  | some (_, value) => .ok value
  | none => .error (.notABool word)

/-- The microseconds of the digits behind a second; further digits are cut off. -/
def microseconds (digits : List Char) : Nat :=
  let six := digits.take 6
  Digits.toNat (six ++ List.replicate (6 - six.length) '0')

/-- The offset of a timestamp, in minutes; it has to be shorter than a day. -/
def offsetOf : Option (Option Char × List Char × List Char) → Reading (Option Int)
  | none => .ok none
  | some (none, _, _) => .ok (some 0)
  | some (some sign, hours, minutes) =>
    let size : Int := Digits.toNat hours * 60 + Digits.toNat minutes
    let offset := if sign = '-' then -size else size
    if size < 24 * 60 then .ok (some offset) else .error (.badOffset offset)

/-- The date or the moment of a scalar. -/
def toTimestamp (text : List CodePoint) : Reading Value := do
  let some stamp := (chars? text).bind fun cs => readStamp (dropLineFeed cs)
    | throw .notATimestamp
  let date := Date.of (Digits.toNat stamp.year) (Digits.toNat stamp.month)
    (Digits.toNat stamp.day)
  match stamp.clock with
  | none => return .date (← date.mapError .badDate)
  | some (hour, minute, second, fraction) =>
    let offset ← offsetOf stamp.zone
    let date ← date.mapError .badDate
    let clock ← (Clock.of (Digits.toNat hour) (Digits.toNat minute)
      (Digits.toNat second) (microseconds fraction)).mapError .badClock
    return .moment ⟨date, clock, offset⟩

/-- Is it the type of scalars that have a value? -/
def Tag.isScalar : Tag → Bool
  | null => true
  | bool => true
  | int => true
  | float => true
  | binary => true
  | timestamp => true
  | text => true
  | _ => false

/-- The value of a scalar with a tag. -/
def scalarValue (tag : Tag) (text : List CodePoint) : Reading Value :=
  match tag with
  | .null => .ok .null
  | .bool => do return .bool (← toBool text)
  | .int => do return .int (← toInt text)
  | .float => do return .float (← toDouble text)
  | .timestamp => toTimestamp text
  | .text => .ok (.ofCodePoints text)
  | .binary =>
    match (chars? text).bind Base64.decode with
    | some bytes => .ok (.bytes bytes)
    | none => .error .malformed
  | _ => .error .malformed

end SchemaMigration.Yaml
