import SchemaMigration.Text.CodePoint
import SchemaMigration.Yaml.Tag

/-!
# The nodes of a YAML document

An alias stands for the very node with its anchor, which may be a node around it. The nodes of a
document are therefore numbered, and a collection holds the numbers of its nodes.
-/

namespace SchemaMigration.Yaml

/-- The number of a node. -/
abbrev NodeId := Nat

/-- What a node holds. -/
inductive Content where
  | scalar (text : List Text.CodePoint)
  | list (items : List NodeId)
  | mapping (entries : List (NodeId × NodeId))

/-- A tagged node. -/
structure Node where
  tag : Tag
  content : Content

/-- The nodes of a document, by their numbers. -/
abbrev Nodes := Array Node

namespace Node

/-- The node that stands where nothing is written. -/
def empty : Node := ⟨.null, .scalar []⟩

instance : Inhabited Node := ⟨empty⟩

end Node

namespace Nodes

/-- The tag of a node. -/
def tag (nodes : Nodes) (id : NodeId) : Tag := nodes[id]!.tag

/-- What a node holds. -/
def content (nodes : Nodes) (id : NodeId) : Content := nodes[id]!.content

/-- The entries of a node that is a mapping. -/
def entries (nodes : Nodes) (id : NodeId) : List (NodeId × NodeId) :=
  match nodes.content id with
  | .mapping entries => entries
  | _ => []

/-- Sets what a node holds. -/
def setContent (nodes : Nodes) (id : NodeId) (content : Content) : Nodes :=
  nodes.modify id fun node => { node with content }

/-- Sets the tag of a node. -/
def setTag (nodes : Nodes) (id : NodeId) (tag : Tag) : Nodes :=
  nodes.modify id fun node => { node with tag }

end Nodes

/-- A document: its nodes and the number of the outermost one. -/
structure Document where
  nodes : Nodes
  root : NodeId

end SchemaMigration.Yaml
