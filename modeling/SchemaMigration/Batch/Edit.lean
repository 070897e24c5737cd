import SchemaMigration.Document.Statement

/-!
# Changing a batch by hand

A statement is put into a batch or taken out of it, and the others keep their order
(`Batch.insertAt_eq`, `Batch.removeAt_eq`). Taking a statement out undoes putting it in
(`Batch.removeAt_insertAt`).
-/

namespace SchemaMigration.Batch

/-- The batch with a statement in front of the one at the given place, or at the end where there is
none. -/
def insertAt : Batch → Nat → Statement → Batch
  | [], _, statement => [statement]
  | rest, 0, statement => statement :: rest
  | first :: rest, place + 1, statement => first :: insertAt rest place statement

/-- The place that a number names: one below zero counts from the end of the batch, and does not
lead beyond its start. -/
def placeOf (batch : Batch) (number : Int) : Nat :=
  if number < 0 then (batch.length + number).toNat else number.toNat

/-- The batch without the statement at the given place, if there is one. -/
def removeAt : Batch → Nat → Batch
  | [], _ => []
  | _ :: rest, 0 => rest
  | first :: rest, place + 1 => first :: removeAt rest place

variable {batch : Batch} {place : Nat} {number : Int}

theorem insertAt_eq (batch : Batch) (place : Nat) (statement : Statement) :
    batch.insertAt place statement = batch.take place ++ statement :: batch.drop place := by
  fun_induction insertAt batch place statement with
  | case1 place statement => simp
  | case2 statement rest h => simp
  | case3 first rest place statement ih =>
    rw [ih, List.take_succ_cons, List.drop_succ_cons, List.cons_append]

theorem removeAt_eq (batch : Batch) (place : Nat) :
    batch.removeAt place = batch.take place ++ batch.drop (place + 1) := by
  fun_induction removeAt batch place with
  | case1 place => simp
  | case2 first rest => simp
  | case3 first rest place ih =>
    rw [ih, List.take_succ_cons, List.drop_succ_cons, List.cons_append]

/-- A statement that was put in can be taken out again. -/
theorem removeAt_insertAt (h : place ≤ batch.length) (statement : Statement) :
    (batch.insertAt place statement).removeAt place = batch := by
  have hlength : (batch.take place).length = place := List.length_take_of_le h
  have hbefore : List.drop (place + 1) (batch.take place) = [] :=
    List.drop_of_length_le (by omega)
  rw [insertAt_eq, removeAt_eq, List.take_left' hlength, List.drop_append, hlength, hbefore]
  simp

/-- A number below zero names a place in the batch, or its start. -/
theorem placeOf_le_length (h : number < 0) : batch.placeOf number ≤ batch.length := by
  rw [placeOf, if_pos h]
  omega

end SchemaMigration.Batch
