/-!
# Rows of digits, and how long they may be

Integers of any size can be held, but not read or written in decimal: there the number of digits is
limited.
-/

namespace SchemaMigration.Digits

/-- The value of a hexadecimal digit. -/
def hex? (c : Char) : Option Nat :=
  if '0' ≤ c ∧ c ≤ '9' then some (c.toNat - '0'.toNat)
  else if 'a' ≤ c ∧ c ≤ 'f' then some (c.toNat - 'a'.toNat + 10)
  else if 'A' ≤ c ∧ c ≤ 'F' then some (c.toNat - 'A'.toNat + 10)
  else none

/-- The digits at the front and what remains. -/
def split (cs : List Char) : List Char × List Char :=
  (cs.takeWhile Char.isDigit, cs.dropWhile Char.isDigit)

/-- The number that a row of decimal digits writes. -/
def toNat (cs : List Char) : Nat :=
  cs.foldl (fun n c => n * 10 + (c.toNat - '0'.toNat)) 0

/-- The exponent behind an `e`, if there is one. -/
def exponent? (cs : List Char) : Option (Int × List Char) :=
  let unsigned (sign : Int) : List Char → Option (Int × List Char)
    | c :: rest =>
      if c.isDigit then
        some (sign * (toNat (split (c :: rest)).1 : Int), (split (c :: rest)).2)
      else none
    | [] => none
  let signed : List Char → Option (Int × List Char)
    | '+' :: rest => unsigned 1 rest
    | '-' :: rest => unsigned (-1) rest
    | rest => unsigned 1 rest
  match cs with
  | 'e' :: rest => signed rest
  | 'E' :: rest => signed rest
  | _ => none

/-! ### The limit -/

/-- How many decimal digits an integer may have where it is read or written. -/
def limit : Nat := 4300

/-- Can an integer be written in decimal? -/
def isWritable (n : Int) : Bool := n.natAbs < Nat.pow 10 limit

/-- The text that reports an integer of too many digits to be read. -/
def unreadableMessage (count : Nat) : String :=
  s!"Exceeds the limit ({limit} digits) for integer string conversion: value has " ++
    s!"{count} digits; use sys.set_int_max_str_digits() to increase the limit"

/-- The text that reports an integer of too many digits to be written. -/
def unwritableMessage : String :=
  s!"Exceeds the limit ({limit} digits) for integer string conversion; " ++
    "use sys.set_int_max_str_digits() to increase the limit"

end SchemaMigration.Digits
