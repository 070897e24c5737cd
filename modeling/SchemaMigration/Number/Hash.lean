import SchemaMigration.Number.Double

/-!
# Hashes of numbers

The hash of a number is its remainder modulo the prime `2 ^ 61 - 1`, with its sign. A fraction has a
remainder too: modulo this prime a power of two depends on the exponent modulo 61 only. So numbers
that are equal have the same hash, whether they are integers or doubles.
-/

namespace SchemaMigration.Hash

/-- The number of bits of the modulus. -/
def modulusBits : Nat := 61

/-- The prime modulo which numbers are hashed. -/
def modulus : Nat := Nat.pow 2 modulusBits - 1

/-- The hash of an infinity. -/
def infinite : Nat := 314159

/-- A remainder with a sign; minus one is no hash, and minus two stands for it. -/
def signed (negative : Bool) (remainder : Nat) : Int :=
  let hash : Int := if negative then -remainder else remainder
  if hash = -1 then -2 else hash

/-- The hash of an integer. -/
def ofInt (n : Int) : Int := signed (n < 0) (n.natAbs % modulus)

/-- The hash of a double; what is no number has none. -/
def ofDouble? : Double → Option Int
  | .nan => none
  | .infinite negative => some (signed negative infinite)
  | .finite negative mantissa exponent =>
    let power := Nat.pow 2 (exponent % modulusBits).toNat
    some (signed negative (mantissa * power % modulus))

end SchemaMigration.Hash
