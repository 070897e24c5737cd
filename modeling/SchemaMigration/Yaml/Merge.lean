import SchemaMigration.Yaml.Fault
import SchemaMigration.Yaml.Node

/-!
# Merging mappings into mappings

The value of a key `<<` is a mapping, or a list of mappings, whose entries go in front of those of
the mapping with the key. Merging changes the nodes themselves, so that an alias of a merged mapping
shows the merged entries; a mapping may even be merged into itself. It also makes a text of each key
`=`.
-/

namespace SchemaMigration.Yaml.Nodes

/-- Is a node the key `<<`? -/
def isMergeKey (nodes : Nodes) (id : NodeId) : Bool := nodes.tag id = .merge

/-- How many keys `<<` there are in all mappings. -/
def countMerges (nodes : Nodes) : Nat :=
  nodes.foldl
    (fun count node =>
      match node.content with
      | .mapping entries => count + entries.countP fun entry => nodes.isMergeKey entry.1
      | _ => count)
    0

/-- Makes texts of the keys `=` among the keys of entries. -/
def markValueKeys (nodes : Nodes) (entries : List (NodeId × NodeId)) : Nodes :=
  entries.foldl
    (fun nodes entry => if nodes.tag entry.1 = .value then nodes.setTag entry.1 .text else nodes)
    nodes

mutual

/-- Merges what the keys `<<` of a mapping name, from the entry with the given index on. What was
merged before is given; it goes in front in the end. Each step takes one key `<<` away. -/
def mergeFrom (fuel : Nat) (nodes : Nodes) (id : NodeId) (index : Nat)
    (merged : List (NodeId × NodeId)) : Reading Nodes :=
  let rest := (nodes.entries id).drop index
  let before := rest.takeWhile fun entry => !nodes.isMergeKey entry.1
  let nodes := nodes.markValueKeys before
  match fuel, rest.drop before.length with
  | _, [] => .ok (nodes.setContent id (.mapping (merged ++ nodes.entries id)))
  | 0, _ => .error .malformed
  | fuel + 1, (_, value) :: _ => do
    let index := index + before.length
    let nodes := nodes.setContent id (.mapping ((nodes.entries id).eraseIdx index))
    match nodes.content value with
    | .mapping _ =>
      let nodes ← mergeFrom fuel nodes value 0 []
      mergeFrom fuel nodes id index (merged ++ nodes.entries value)
    | .list items =>
      let (nodes, parts) ← mergeItems fuel nodes items
      mergeFrom fuel nodes id index (merged ++ parts)
    | .scalar _ => throw .malformed
termination_by (fuel, 0)

/-- Merges what the keys `<<` of several mappings name; then all their entries, the last mapping
first. -/
def mergeItems (fuel : Nat) (nodes : Nodes) :
    List NodeId → Reading (Nodes × List (NodeId × NodeId))
  | [] => .ok (nodes, [])
  | item :: rest => do
    match nodes.content item with
    | .mapping _ =>
      let nodes ← mergeFrom fuel nodes item 0 []
      let entries := nodes.entries item
      let (nodes, others) ← mergeItems fuel nodes rest
      return (nodes, others ++ entries)
    | _ => throw .malformed
termination_by rest => (fuel, rest.length + 1)

end

/-- Merges what the keys `<<` of a mapping name. -/
def merge (nodes : Nodes) (id : NodeId) : Reading Nodes :=
  let isSpecial (entry : NodeId × NodeId) : Bool :=
    nodes.isMergeKey entry.1 || nodes.tag entry.1 = .value
  if (nodes.entries id).any isSpecial then mergeFrom nodes.countMerges nodes id 0 [] else .ok nodes

end SchemaMigration.Yaml.Nodes
