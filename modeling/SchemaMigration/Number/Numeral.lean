import SchemaMigration.Number.Digits
import SchemaMigration.Number.Double
import SchemaMigration.Text.Decimal
import SchemaMigration.Text.Quoted

/-!
# Numbers that are written as texts

White space may stand at both ends of a number and a sign in front of it. The digits may be those of
any script, and between two digits of an integer there may be one underscore.
-/

namespace SchemaMigration.Numeral

open Text

/-- Why a text is no number. -/
inductive Fault where
  | notAnInt (base : Nat) (text : List CodePoint)
  | notADouble (text : List CodePoint)
  /-- An integer with more decimal digits than are read. -/
  | tooManyDigits (count : Nat)
  deriving DecidableEq

/-- How many characters of a text that is no integer are shown. -/
def shownLength : Nat := 200

/-- The text that reports a fault. -/
def Fault.message : Fault → String
  | notAnInt base text =>
    s!"invalid literal for int() with base {base}: " ++
      String.ofList ((quotedCodePoints text).toList.take shownLength)
  | notADouble text => "could not convert string to float: " ++ quotedCodePoints text
  | tooManyDigits count => Digits.unreadableMessage count

/-- Is the character white space between a number and the ends of its text? -/
def isSpace (c : Char) : Bool := c = ' ' || ('\t' ≤ c && c ≤ '\r')

/-- The text without white space at its ends. -/
def trimmed (cs : List Char) : List Char :=
  ((cs.dropWhile isSpace).reverse.dropWhile isSpace).reverse

/-- Is there a minus in front, and what follows the sign. -/
def splitSign : List Char → Bool × List Char
  | '-' :: rest => (true, rest)
  | '+' :: rest => (false, rest)
  | cs => (false, cs)

/-! ### Integers -/

/-- The letter that may announce a base behind a zero. -/
def baseLetter? : Nat → Option Char
  | 2 => some 'b'
  | 8 => some 'o'
  | 16 => some 'x'
  | _ => none

/-- What follows the announcement of a base and the underscore that may stand behind it. -/
def dropBase (base : Nat) : List Char → List Char
  | '0' :: letter :: rest =>
    if baseLetter? base = some letter.toLower then
      match rest with
      | '_' :: rest => rest
      | rest => rest
    else '0' :: letter :: rest
  | cs => cs

/-- The value of a digit in a base. -/
def digitIn? (base : Nat) (c : Char) : Option Nat := (Digits.hex? c).filter (· < base)

/-- Do underscores stand only between digits, one at a time? -/
def underscoresFit : List Char → Bool
  | [] => true
  | ['_'] => false
  | '_' :: '_' :: _ => false
  | _ :: rest => underscoresFit rest

/-- The number of a row of digits in a base. -/
def ofDigits (base : Nat) (digits : List Char) : Nat :=
  digits.foldl (fun n c => n * base + (digitIn? base c).getD 0) 0

/-- The integer that a text writes in a base. Its length is looked at before what follows it. -/
def toInt (base : Nat) (text : List CodePoint) : Except Fault Int :=
  let refused : Except Fault Int := .error (.notAnInt base text)
  let (negative, unsigned) := splitSign (trimmed (plainNumeral text))
  let isPart (c : Char) : Bool := c = '_' || (digitIn? base c).isSome
  let body := dropBase base unsigned
  let row := body.takeWhile isPart
  let digits := row.filter (· ≠ '_')
  if row.head? = some '_' || !underscoresFit row then refused
  else if base = 10 ∧ Digits.limit < digits.length then .error (.tooManyDigits digits.length)
  else if digits.isEmpty ∨ row.length < body.length then refused
  else
    let n : Int := ofDigits base digits
    .ok (if negative then -n else n)

/-! ### Doubles -/

/-- The double that a text writes: decimal digits with a point or an exponent, or a word for
infinity or for no number. -/
def toDouble (text : List CodePoint) : Except Fault Double :=
  let (negative, magnitude) := splitSign (trimmed (plainNumeral text))
  match String.ofList (magnitude.map Char.toLower) with
  | "inf" => .ok (.infinite negative)
  | "infinity" => .ok (.infinite negative)
  | "nan" => .ok .nan
  | _ =>
    let (whole, rest) := Digits.split magnitude
    let (places, rest) := match rest with
      | '.' :: rest => Digits.split rest
      | _ => ([], rest)
    let (scale, rest) := (Digits.exponent? rest).getD (0, rest)
    if (whole ++ places).isEmpty || !rest.isEmpty then .error (.notADouble text)
    else .ok (.ofDecimal negative (Digits.toNat (whole ++ places)) (scale - places.length))

end SchemaMigration.Numeral
