/-!
# Bytes written in base 64

Characters outside the alphabet are skipped. Reading stops at the equal signs that fill up a group
of four; a group that is neither full nor filled up is refused.
-/

namespace SchemaMigration.Yaml.Base64

/-- The six bits that a character stands for. -/
def sextet? (c : Char) : Option Nat :=
  if 'A' ≤ c ∧ c ≤ 'Z' then some (c.toNat - 'A'.toNat)
  else if 'a' ≤ c ∧ c ≤ 'z' then some (c.toNat - 'a'.toNat + 26)
  else if '0' ≤ c ∧ c ≤ '9' then some (c.toNat - '0'.toNat + 52)
  else if c = '+' then some 62
  else if c = '/' then some 63
  else none

/-- The bytes of the rest of a text, inside a group of four characters of which `place` were read;
`left` holds the bits that are not part of a byte yet, and `filled` counts the equal signs since. -/
def decodeFrom (place left filled : Nat) : List Char → Option (List UInt8)
  | [] => if place = 0 then some [] else none
  | c :: rest =>
    if c = '=' then
      if 2 ≤ place ∧ 4 ≤ place + (filled + 1) then some []
      else decodeFrom place left (filled + 1) rest
    else
      match sextet? c, place with
      | none, _ => decodeFrom place left filled rest
      | some bits, 0 => decodeFrom 1 bits 0 rest
      | some bits, 1 =>
        (decodeFrom 2 (bits % 16) 0 rest).map ((left * 4 + bits / 16).toUInt8 :: ·)
      | some bits, 2 =>
        (decodeFrom 3 (bits % 4) 0 rest).map ((left * 16 + bits / 4).toUInt8 :: ·)
      | some bits, _ => (decodeFrom 0 0 0 rest).map ((left * 64 + bits).toUInt8 :: ·)

/-- The bytes that a text writes; it has to be ASCII. -/
def decode (text : List Char) : Option (List UInt8) :=
  if text.all (·.toNat < 0x80) then decodeFrom 0 0 0 text else none

end SchemaMigration.Yaml.Base64
