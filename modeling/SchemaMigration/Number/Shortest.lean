import SchemaMigration.Number.Double

/-!
# The shortest decimal that reads back as a given double

A double stands for all reals that round to it: an interval whose ends count exactly when the
mantissa is even. On the grids of one, two, … seventeen digits, the value's two neighbours are
tested; the first grid with a neighbour inside the interval gives the digits, and of two neighbours
inside it the nearer one is taken.
-/

namespace SchemaMigration

/-- The decimal number `digits * 10 ^ exponent`. -/
structure Decimal where
  digits : Nat
  exponent : Int
  deriving DecidableEq

namespace Decimal

/-- The decimal digits of a natural number, most significant first. -/
def digitChars (n : Nat) : List Char := Nat.toDigits 10 n

/-- The greatest `e` with `10 ^ e ≤ num / den`, for a positive fraction. -/
def leadingExponent (num den : Nat) : Int :=
  let estimate : Int := (digitChars num).length - (digitChars den).length
  if den * Nat.pow 10 estimate.toNat ≤ num * Nat.pow 10 (-estimate).toNat then estimate
  else estimate - 1

/-- The number without the zeros at the end of its digits. -/
def stripZeros (d : Decimal) : Decimal :=
  let rec strip : Nat → Nat → Int → Decimal
    | 0, digits, exponent => ⟨digits, exponent⟩
    | fuel + 1, digits, exponent =>
      if digits % 10 = 0 ∧ digits ≠ 0 then strip fuel (digits / 10) (exponent + 1)
      else ⟨digits, exponent⟩
  strip (digitChars d.digits).length d.digits d.exponent

/-- The reals that round to `mantissa * 2 ^ exponent`: the ends over a common denominator. -/
structure Interval where
  low : Nat
  value : Nat
  high : Nat
  den : Nat
  closed : Bool

/-- The interval of a positive double; below a power of two the grid of doubles is finer. -/
def Interval.ofDouble (mantissa : Nat) (exponent : Int) : Interval :=
  let below := if mantissa = Double.minMantissa ∧ Double.minExponent < exponent then 1 else 2
  let unit := Nat.pow 2 (exponent - 2).toNat
  { low := (4 * mantissa - below) * unit
    value := 4 * mantissa * unit
    high := (4 * mantissa + 2) * unit
    den := Nat.pow 2 (2 - exponent).toNat
    closed := mantissa % 2 = 0 }

/-- Does the decimal `digits * 10 ^ exponent` lie in the interval? -/
def Interval.holds (interval : Interval) (digits : Nat) (exponent : Int) : Bool :=
  let point := digits * Nat.pow 10 exponent.toNat * interval.den
  let shift := Nat.pow 10 (-exponent).toNat
  if interval.closed then interval.low * shift ≤ point && point ≤ interval.high * shift
  else interval.low * shift < point && point < interval.high * shift

/-- The nearer one of the value's neighbours `lower` and `lower + 1` on the grid that is in the
interval; of two at the same distance the even one. -/
def Interval.nearest? (interval : Interval) (exponent : Int) : Option Decimal :=
  let num := interval.value * Nat.pow 10 (-exponent).toNat
  let den := interval.den * Nat.pow 10 exponent.toNat
  let lower := num / den
  let twice := 2 * (num % den)
  let lowerFits := interval.holds lower exponent
  let upperFits := interval.holds (lower + 1) exponent
  if lowerFits && (!upperFits || twice < den || (twice = den && lower % 2 = 0)) then
    some ⟨lower, exponent⟩
  else if upperFits then some ⟨lower + 1, exponent⟩
  else none

/-- The shortest decimal that reads back as the positive double `mantissa * 2 ^ exponent`. -/
def shortest (mantissa : Nat) (exponent : Int) : Decimal :=
  let interval := Interval.ofDouble mantissa exponent
  let leading := leadingExponent interval.value interval.den
  let found := (List.range 17).findSome? fun (n : Nat) => interval.nearest? (leading - n)
  (found.getD ⟨0, 0⟩).stripZeros

/-- Where a text changes from positional to exponent form, and how an exponent is padded. -/
structure Layout where
  /-- The least exponent of the first digit that is written positionally. -/
  positionalFrom : Int
  /-- The first exponent of the first digit that is not written positionally any more. -/
  positionalBelow : Int
  /-- How many digits an exponent has at least. -/
  exponentDigits : Nat

/-- The text of a positive decimal; a positional text always has a digit after the point. -/
def render (layout : Layout) (d : Decimal) : String :=
  let digits := digitChars d.digits
  let leading : Int := d.exponent + digits.length - 1
  let zeros (n : Int) : List Char := List.replicate n.toNat '0'
  String.ofList <|
    if layout.positionalFrom ≤ leading ∧ leading < layout.positionalBelow then
      if 0 ≤ d.exponent then digits ++ zeros d.exponent ++ ['.', '0']
      else if 0 ≤ leading then
        digits.take (leading.toNat + 1) ++ '.' :: digits.drop (leading.toNat + 1)
      else ['0', '.'] ++ zeros (-leading - 1) ++ digits
    else
      let exponentText := digitChars leading.natAbs
      digits.take 1 ++ (if digits.length = 1 then [] else '.' :: digits.drop 1) ++
        ['e', if leading < 0 then '-' else '+'] ++
        zeros (layout.exponentDigits - exponentText.length) ++ exponentText

end Decimal

end SchemaMigration
