import SchemaMigration.Yaml.Merge
import SchemaMigration.Yaml.Object
import SchemaMigration.Yaml.ScalarValue

/-!
# The value of a YAML document

Equal keys of a mapping keep their first place and take the last value. A mapping with the key `=`
stands for the value of that key where a scalar is needed.

Each node is made into one object. A collection is empty at first and waits to be filled until all
that came before it are filled, which is why it can hold itself; the first fault that shows on the
way is reported.
-/

namespace SchemaMigration.Yaml

/-- Is it the type of a collection? -/
def Tag.isCollection : Tag → Bool
  | list => true
  | mapping => true
  | set => true
  | orderedMapping => true
  | pairs => true
  | _ => false

/-- The text of a scalar, or of the first value of a key `=` in a mapping. -/
def Nodes.scalarText (nodes : Nodes) : Nat → NodeId → Reading (List Text.CodePoint)
  | 0, _ => .error .malformed
  | fuel + 1, id =>
    match nodes.content id with
    | .scalar text => .ok text
    | .list _ => .error .malformed
    | .mapping entries =>
      match entries.find? fun entry => nodes.tag entry.1 = .value with
      | some (_, value) => nodes.scalarText fuel value
      | none => .error .malformed

/-- The objects that were made so far. -/
structure Making where
  nodes : Nodes
  objects : Objects
  /-- The objects of nodes. -/
  made : Array (Option ObjectId)
  /-- The nodes of the collections that are not filled yet, the last one first. -/
  waiting : List (NodeId × ObjectId)

namespace Making

/-- The object of every value that is written as the word for no number: as a key, it equals itself.
-/
def noNumber : ObjectId := 0

/-- Nothing was made yet. -/
def start (nodes : Nodes) : Making :=
  ⟨nodes, #[.plain (.float .nan)], Array.replicate nodes.size none, []⟩

/-- One more object. -/
def add (m : Making) (id : NodeId) (object : Object) : ObjectId × Making :=
  let new := m.objects.size
  (new, { m with objects := m.objects.push object, made := m.made.set! id (some new) })

/-- The collection of a type, without its members. -/
def hollow : Tag → Object
  | .mapping => .mapping []
  | .set => .set []
  | .list => .list []
  | _ => .pairs []

/-- The object of a node. -/
def object (m : Making) (id : NodeId) : Reading (ObjectId × Making) := do
  if let some made := m.made[id]! then return (made, m)
  let tag := m.nodes.tag id
  if tag.isCollection then
    let (new, m) := m.add id (hollow tag)
    return (new, { m with waiting := (id, new) :: m.waiting })
  else if !tag.isScalar then throw .malformed
  else
    let text ← m.nodes.scalarText (m.nodes.size + 1) id
    match tag, m.nodes.content id with
    | .timestamp, .mapping _ => throw .timestampNotScalar
    | .float, _ =>
      if isNoNumberWord text then
        return (noNumber, { m with made := m.made.set! id (some noNumber) })
      else return m.add id (.plain (← scalarValue tag text))
    | _, _ => return m.add id (.plain (← scalarValue tag text))

/-- The objects of several nodes, in order. -/
def objectsOf (m : Making) : List NodeId → Reading (List ObjectId × Making)
  | [] => .ok ([], m)
  | id :: rest => do
    let (first, m) ← m.object id
    let (others, m) ← objectsOf m rest
    return (first :: others, m)

/-- The entries of a mapping, added to those before. Only a scalar can be a key. -/
def entriesOf (m : Making) (before : List (ObjectId × ObjectId)) :
    List (NodeId × NodeId) → Reading (List (ObjectId × ObjectId) × Making)
  | [] => .ok (before, m)
  | (key, value) :: rest => do
    let (key, m) ← m.object key
    if (m.objects.plain? key).isNone then throw .malformed
    let (value, m) ← m.object value
    entriesOf m (m.objects.putEntry before key value) rest

/-- The pairs of a list of mappings with one entry each. -/
def pairsOf (m : Making) : List NodeId → Reading (List (ObjectId × ObjectId) × Making)
  | [] => .ok ([], m)
  | id :: rest => do
    match m.nodes.content id with
    | .mapping [(key, value)] =>
      let (key, m) ← m.object key
      let (value, m) ← m.object value
      let (others, m) ← pairsOf m rest
      return ((key, value) :: others, m)
    | _ => throw .malformed

/-- The entries of a node that has to be a mapping, with what is merged into it. -/
def mappingEntries (m : Making) (id : NodeId) :
    Reading (List (ObjectId × ObjectId) × Making) := do
  match m.nodes.content id with
  | .mapping _ =>
    let nodes ← m.nodes.merge id
    entriesOf { m with nodes } [] (nodes.entries id)
  | _ => throw .malformed

/-- What a collection is filled with. -/
def filled (m : Making) (id : NodeId) : Reading (Object × Making) := do
  match m.nodes.tag id with
  | .mapping =>
    let (entries, m) ← m.mappingEntries id
    return (.mapping entries, m)
  | .set =>
    let (entries, m) ← m.mappingEntries id
    return (.set (m.objects.inSetOrder (entries.map (·.1))), m)
  | tag =>
    match m.nodes.content id with
    | .list items =>
      if tag = .list then
        let (items, m) ← m.objectsOf items
        return (.list items, m)
      else
        let (items, m) ← m.pairsOf items
        return (.pairs items, m)
    | _ => throw .malformed

/-- Fills several collections, in order. -/
def fillEach (m : Making) : List (NodeId × ObjectId) → Reading Making
  | [] => .ok m
  | (id, target) :: rest => do
    let (object, m) ← m.filled id
    fillEach { m with objects := m.objects.set! target object } rest

/-- Fills all collections, those that are still waiting then included. -/
def fillAll : Nat → Making → Reading Making
  | 0, m => .ok m
  | fuel + 1, m => do
    if m.waiting.isEmpty then return m
    fillAll fuel (← fillEach { m with waiting := [] } m.waiting.reverse)

end Making

/-- The value of a document. -/
def Document.value (document : Document) : Reading Value := do
  let (root, m) ← (Making.start document.nodes).object document.root
  let m ← Making.fillAll (document.nodes.size + 1) m
  return m.objects.value root

end SchemaMigration.Yaml
