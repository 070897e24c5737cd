import SchemaMigration.Value.SetOrder

/-!
# The objects that YAML nodes are made into

Objects are numbered as nodes are, and a collection holds the numbers of its members, since it may
hold itself. `Objects.value` makes a value of an object, in which such a collection is looped.
-/

namespace SchemaMigration.Yaml

/-- The number of an object. -/
abbrev ObjectId := Nat

/-- An object. -/
inductive Object where
  | plain (value : Value)
  | list (items : List ObjectId)
  /-- A list of pairs. -/
  | pairs (items : List (ObjectId × ObjectId))
  | mapping (entries : List (ObjectId × ObjectId))
  | set (members : List ObjectId)

instance : Inhabited Object := ⟨.plain .null⟩

/-- The objects of a document, by their numbers. -/
abbrev Objects := Array Object

namespace Object

/-- The members of an object. -/
def members : Object → List ObjectId
  | plain _ => []
  | list items => items
  | pairs items => items.flatMap fun pair => [pair.1, pair.2]
  | mapping entries => entries.flatMap fun entry => [entry.1, entry.2]
  | set members => members

/-- The value of an object whose members have the given values. -/
def withMembers (valueOf : ObjectId → Value) : Object → Value
  | plain value => value
  | list items => .list (items.map valueOf)
  | pairs items => .list (items.map fun pair => .pair (valueOf pair.1) (valueOf pair.2))
  | mapping entries => .mapping (entries.map fun entry => (valueOf entry.1, valueOf entry.2))
  | set members => .set (members.map valueOf)

end Object

namespace Objects

/-! ### Keys -/

/-- The value of an object that is none but a plain one. -/
def plain? (objects : Objects) (id : ObjectId) : Option Value :=
  match objects[id]! with
  | .plain value => some value
  | _ => none

/-- Are two objects equal as keys? An object always equals itself. -/
def sameKey (objects : Objects) (a b : ObjectId) : Bool :=
  a = b ||
    match objects.plain? a, objects.plain? b with
    | some x, some y => x.sameKey y
    | _, _ => false

/-- Sets the value of a key: in the place of an equal key, which stays, or at the end. -/
def putEntry (objects : Objects) :
    List (ObjectId × ObjectId) → ObjectId → ObjectId → List (ObjectId × ObjectId)
  | [], key, value => [(key, value)]
  | (key', value') :: rest, key, value =>
    if objects.sameKey key' key then (key', value) :: rest
    else (key', value') :: putEntry objects rest key value

/-! ### Sets -/

/-- The members of a set in the order in which it shows them. -/
def inSetOrder (objects : Objects) (members : List ObjectId) : List ObjectId :=
  let hashed? := members.mapM fun member => do
    return (← SetOrder.hash? (← objects.plain? member), member)
  match hashed? with
  | some hashed => SetOrder.inOrder hashed
  | none => members

/-! ### Values -/

/-- What is known about the values of objects. -/
structure Settling where
  /-- The values of objects in which no collection stands inside itself. -/
  values : Array (Option Value)
  /-- The objects that were looked at. -/
  seen : Array Bool

/-- Finds the values of an object and of all in it. A collection that is met again before its own
value is known stands inside itself, so that it gets none. -/
def settle (objects : Objects) : Nat → Settling → ObjectId → Settling
  | 0, known, _ => known
  | fuel + 1, known, id =>
    if known.seen[id]! then known
    else
      let object := objects[id]!
      let known := { known with seen := known.seen.set! id true }
      let known := object.members.foldl (settle objects fuel) known
      if object.members.all fun member => known.values[member]!.isSome then
        let value := object.withMembers fun member => known.values[member]!.getD .null
        { known with values := known.values.set! id (some value) }
      else known

/-- The values of all objects in which no collection stands inside itself. -/
def finiteValues (objects : Objects) (root : ObjectId) : Array (Option Value) :=
  let none : Settling :=
    ⟨Array.replicate objects.size none, Array.replicate objects.size false⟩
  (objects.settle (objects.size + 1) none root).values

/-- The value of an object, opened up so many levels deep where collections stand inside
themselves. -/
def opened (objects : Objects) (finite : Array (Option Value)) : Nat → ObjectId → Value
  | 0, _ => .null
  | fuel + 1, id =>
    match finite[id]! with
    | some value => value
    | none =>
      .looped id (Thunk.mk fun _ => objects[id]!.withMembers (opened objects finite fuel))

/-- How many levels deep a collection is opened up inside itself: deeper than anything looks. -/
def depth : Nat := 1000

/-- The value of an object. -/
def value (objects : Objects) (id : ObjectId) : Value :=
  objects.opened (objects.finiteValues id) depth id

end Objects

end SchemaMigration.Yaml
