import SchemaMigration.Number.Hash
import SchemaMigration.Value.Basic

/-!
# The order of the members of a set

A set keeps its members in a table, each at a place that its hash determines, and shows them in the
order of their places. The places of numbers are fixed. Those of other members are not, so that a
set with one of them may show its members in any order; here that is the order of the text.
-/

namespace SchemaMigration.SetOrder

/-- The hash of a member, if it is fixed. -/
def hash? : Value → Option Int
  | .bool b => some (Hash.ofInt b.toInt)
  | .int n => some (Hash.ofInt n)
  | .float x => Hash.ofDouble? x
  | _ => none

/-- A hash as 64 bits. -/
def bits (hash : Int) : Nat := (hash % (Nat.pow 2 64 : Nat)).toNat

/-- The power of two that is larger than a number, and at least eight. -/
def powerAbove (n : Nat) : Nat := max 8 (Nat.pow 2 (Nat.log2 n + 1))

/-- The size of the table for a number of members. -/
def tableSize (count : Nat) : Nat :=
  if count < 5 then 8 else powerAbove (2 * count)

/-- A table with places that may be free. -/
abbrev Table (α : Type) := Array (Option α)

/-- The places that are tried together: ten in a row, or a single one near the end of the table. -/
def tried (size place : Nat) : List Nat :=
  if place + 9 < size then List.range' place 10 else [place]

/-- The first free place that is met from a place on. Where none is free close by, the search goes
on far away, at a place to which more bits of the hash are added. -/
def freePlace {α : Type} (table : Table α) : Nat → Nat → Nat → Nat
  | 0, place, _ => place
  | fuel + 1, place, bits =>
    match (tried table.size place).find? fun place => table[place]!.isNone with
    | some free => free
    | none =>
      let bits := bits / 32
      freePlace table fuel ((place * 5 + 1 + bits) % table.size) bits

/-- Puts a member with its hash into a table. -/
def put {α : Type} (table : Table α) (hash : Int) (member : α) : Table α :=
  let place := freePlace table (table.size + 16) (bits hash % table.size) (bits hash)
  table.set! place (some member)

/-- Different members, given with their hashes, in the order of their places. -/
def inOrder {α : Type} (members : List (Int × α)) : List α :=
  let table := Array.replicate (tableSize members.length) none
  (members.foldl (fun table member => put table member.1 member.2) table).toList.filterMap id

end SchemaMigration.SetOrder
