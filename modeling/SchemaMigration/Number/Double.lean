/-!
# Floating-point numbers of 64 bits, as exact binary fractions

A finite double is a sign, a mantissa below 2^53 and a power of two. Everything here is computed
with unbounded integers: `ofRatio` rounds a fraction to the nearest double, and a tie goes to the
even mantissa. A double has one representation only, so equality of values is equality of fields,
but for the two zeros and for the values that are no numbers.
-/

namespace SchemaMigration

/-- A double: `mantissa * 2 ^ exponent` with a sign, an infinity, or no number at all. -/
inductive Double where
  | finite (negative : Bool) (mantissa : Nat) (exponent : Int)
  | infinite (negative : Bool)
  | nan
  deriving DecidableEq

namespace Double

/-- The exponent of the doubles closest to zero. -/
def minExponent : Int := -1074

/-- The exponent of the largest finite doubles. -/
def maxExponent : Int := 971

/-- The smallest mantissa of a double whose exponent is not the least one. -/
def minMantissa : Nat := Nat.pow 2 52

/-- Zero, with its sign. -/
def zero (negative : Bool) : Double := finite negative 0 minExponent

/-- The fraction `num / den` divided by `2 ^ exponent`, as numerator and denominator. -/
def scaleDown (num den : Nat) (exponent : Int) : Nat × Nat :=
  (num * Nat.pow 2 (-exponent).toNat, den * Nat.pow 2 exponent.toNat)

/-- The integer nearest to `num / den`; a tie goes to the even one. -/
def roundHalfEven (num den : Nat) : Nat :=
  let quotient := num / den
  let twice := 2 * (num % den)
  if twice < den then quotient
  else if den < twice then quotient + 1
  else quotient + quotient % 2

/-- The double nearest to the fraction `num / den`, with the given sign. -/
def ofRatio (negative : Bool) (num den : Nat) : Double :=
  if num = 0 then zero negative
  else
    let estimate := max ((Nat.log2 num : Int) - Nat.log2 den - 53) minExponent
    let (coarseNum, coarseDen) := scaleDown num den estimate
    let exponent := if coarseNum / coarseDen < 2 * minMantissa then estimate else estimate + 1
    let (fineNum, fineDen) := scaleDown num den exponent
    let mantissa := roundHalfEven fineNum fineDen
    if mantissa < 2 * minMantissa then
      if maxExponent < exponent then infinite negative else finite negative mantissa exponent
    else if maxExponent < exponent + 1 then infinite negative
    else finite negative minMantissa (exponent + 1)

/-- The double nearest to `digits * 10 ^ exponent`, with the given sign. -/
def ofDecimal (negative : Bool) (digits : Nat) (exponent : Int) : Double :=
  if digits = 0 then zero negative
  else if 400 < exponent then infinite negative
  else if exponent + Nat.log2 digits < -400 then zero negative
  else ofRatio negative (digits * Nat.pow 10 exponent.toNat) (Nat.pow 10 (-exponent).toNat)

/-- The numerator and the denominator of `mantissa * 2 ^ exponent`. -/
def ratio (mantissa : Nat) (exponent : Int) : Nat × Nat :=
  (mantissa * Nat.pow 2 exponent.toNat, Nat.pow 2 (-exponent).toNat)

/-- Is the value a zero of either sign? -/
def isZero : Double → Bool
  | finite _ mantissa _ => mantissa = 0
  | _ => false

/-- The value with the opposite sign. -/
def negate : Double → Double
  | finite negative mantissa exponent => finite (!negative) mantissa exponent
  | infinite negative => infinite (!negative)
  | nan => nan

/-- The double nearest to a natural number, unless that is larger than all of them. -/
def ofNat? (n : Nat) : Option Double :=
  match ofRatio false n 1 with
  | infinite _ => none
  | x => some x

/-- The numerator of a finite value over the denominator of its ratio. -/
def signedNum (negative : Bool) (mantissa : Nat) (exponent : Int) : Int :=
  let num : Int := (ratio mantissa exponent).1
  if negative then -num else num

/-- The rounded sum. The sum of opposite values is the positive zero, that of opposite infinities no
number. -/
def add : Double → Double → Double
  | nan, _ => nan
  | _, nan => nan
  | infinite a, infinite b => if a = b then infinite a else nan
  | infinite a, finite .. => infinite a
  | finite .., infinite b => infinite b
  | finite a m e, finite b m' e' =>
    if m = 0 ∧ m' = 0 then zero (a && b)
    else
      let (_, den) := ratio m e
      let (_, den') := ratio m' e'
      let num := signedNum a m e * den' + signedNum b m' e' * den
      ofRatio (num < 0) num.natAbs (den * den')

/-- The rounded product. That of an infinity with zero is no number. -/
def mul : Double → Double → Double
  | nan, _ => nan
  | _, nan => nan
  | infinite a, infinite b => infinite (a ≠ b)
  | infinite a, finite b m _ => if m = 0 then nan else infinite (a ≠ b)
  | finite a m _, infinite b => if m = 0 then nan else infinite (a ≠ b)
  | finite a m e, finite b m' e' =>
    let (num, den) := ratio m e
    let (num', den') := ratio m' e'
    ofRatio (a ≠ b) (num * num') (den * den')

/-- Do two values compare as equal? The two zeros do, and no value equals what is no number. -/
def equals : Double → Double → Bool
  | nan, _ => false
  | x, y => x = y || (x.isZero && y.isZero)

/-- Does the value equal an integer? -/
def equalsInt : Double → Int → Bool
  | finite negative mantissa exponent, n =>
    let (num, den) := ratio mantissa exponent
    (num : Int) * (if negative then -1 else 1) = n * den
  | _, _ => false

end Double

end SchemaMigration
