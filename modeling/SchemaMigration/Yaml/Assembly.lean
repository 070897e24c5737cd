import SchemaMigration.Yaml.Node
import SchemaMigration.Yaml.Plain
import SchemaMigration.Yaml.Scan

/-!
# Documents of YAML tokens

Tokens form one tree of tagged nodes, in which an alias names a node that was begun before. Anchors
are set once. A stream has to hold a single document or none. Tokens are looked at one by one, so
that of two faults the one that comes first in the text is found.
-/

namespace SchemaMigration.Yaml

/-- A document that is being built: the tokens that are left and the fault behind them, what is
known about anchors and tag handles, and the nodes so far. -/
structure Assembly where
  tokens : Tokens
  anchors : List (String × NodeId)
  handles : List (String × String)
  nodes : Nodes

namespace Assembly

/-- The next token; at the end there is none. -/
def peek (s : Assembly) : Reading (Option Token) :=
  match s.tokens.list, s.tokens.fault with
  | token :: _, _ => .ok (some token)
  | [], some fault => .error fault
  | [], none => .ok none

/-- Behind the next token. -/
def drop (s : Assembly) : Assembly :=
  { s with tokens := { s.tokens with list := s.tokens.list.tail } }

/-! ### Properties of nodes -/

/-- The properties of a node. -/
structure Properties where
  anchor : Option String
  tag : Option String

namespace Properties

/-- Has the node neither an anchor nor a tag? -/
def isEmpty (p : Properties) : Bool := p.anchor.isNone && p.tag.isNone

/-- The tag of a scalar; an exclamation mark by itself makes it count as plain. -/
def scalarTag (p : Properties) (isPlain : Bool) (text : List Text.CodePoint) : Tag :=
  match p.tag with
  | none => if isPlain then plainTag text else .text
  | some "!" => plainTag text
  | some name => Tag.ofName name

/-- The tag of a collection. -/
def collectionTag (p : Properties) (usual : Tag) : Tag :=
  match p.tag with
  | none => usual
  | some "!" => usual
  | some name => Tag.ofName name

end Properties

/-- The name of a tag; its handle has to be known. -/
def tagName (s : Assembly) (handle : Option String) (suffix : String) : Reading String :=
  match handle with
  | none => .ok suffix
  | some handle =>
    match s.handles.lookup handle with
    | some tagStart => .ok (tagStart ++ suffix)
    | none => .error .malformed

/-- The anchor and the tag at the front, in either order. -/
def properties (s : Assembly) : Reading (Properties × Assembly) := do
  match ← s.peek with
  | some (.anchor anchor) =>
    let s := s.drop
    match ← s.peek with
    | some (.tag handle suffix) => return (⟨some anchor, ← s.tagName handle suffix⟩, s.drop)
    | _ => return (⟨some anchor, none⟩, s)
  | some (.tag handle suffix) =>
    let s := s.drop
    match ← s.peek with
    | some (.anchor anchor) => return (⟨some anchor, ← s.tagName handle suffix⟩, s.drop)
    | _ => return (⟨none, ← s.tagName handle suffix⟩, s)
  | _ => return (⟨none, none⟩, s)

/-! ### Nodes -/

/-- One more node without an anchor. -/
def add (s : Assembly) (node : Node) : NodeId × Assembly :=
  (s.nodes.size, { s with nodes := s.nodes.push node })

/-- One more node; its anchor must not be set yet. -/
def begin (s : Assembly) (anchor : Option String) (node : Node) : Reading (NodeId × Assembly) :=
  match anchor with
  | none => .ok (s.add node)
  | some name =>
    if (s.anchors.lookup name).isSome then .error .malformed
    else
      let (id, s) := s.add node
      .ok (id, { s with anchors := (name, id) :: s.anchors })

/-- Begins a list. -/
def beginList (s : Assembly) (p : Properties) : Reading (NodeId × Assembly) :=
  s.begin p.anchor ⟨p.collectionTag .list, .list []⟩

/-- Begins a mapping. -/
def beginMapping (s : Assembly) (p : Properties) : Reading (NodeId × Assembly) :=
  s.begin p.anchor ⟨p.collectionTag .mapping, .mapping []⟩

/-- Completes a list. -/
def endList (s : Assembly) (id : NodeId) (items : List NodeId) : Assembly :=
  { s with nodes := s.nodes.setContent id (.list items) }

/-- Completes a mapping. -/
def endMapping (s : Assembly) (id : NodeId) (entries : List (NodeId × NodeId)) : Assembly :=
  { s with nodes := s.nodes.setContent id (.mapping entries) }

/-- The node that an alias stands for. -/
def resolve (s : Assembly) (name : String) : Reading NodeId :=
  match s.anchors.lookup name with
  | some id => .ok id
  | none => .error .malformed

/-- Where a node stands: which collections may start there. -/
inductive Place where
  | flow
  | block
  /-- In a block, where a list may start without further indentation. -/
  | blockValue
  deriving DecidableEq

mutual

/-- The node at the front. -/
def node (place : Place) : Nat → Assembly → Reading (NodeId × Assembly)
  | 0, _ => .error .malformed
  | fuel + 1, s => do
    if let some (.reference name) ← s.peek then return (← s.resolve name, s.drop)
    let (properties, s) ← s.properties
    match ← s.peek, place with
    | some .item, .blockValue =>
      let (id, s) ← s.beginList properties
      let (items, s) ← dashedItems fuel s
      return (id, s.endList id items)
    | some (.scalar text isPlain), _ =>
      s.drop.begin properties.anchor ⟨properties.scalarTag isPlain text, .scalar text⟩
    | some .flowListStart, _ =>
      let (id, s) ← s.beginList properties
      let (items, s) ← flowItems true fuel s.drop
      return (id, s.endList id items)
    | some .flowMappingStart, _ =>
      let (id, s) ← s.beginMapping properties
      let (entries, s) ← flowEntries true fuel s.drop
      return (id, s.endMapping id entries)
    | some .listStart, .block => blockList properties fuel s
    | some .listStart, .blockValue => blockList properties fuel s
    | some .mappingStart, .block => blockMapping properties fuel s
    | some .mappingStart, .blockValue => blockMapping properties fuel s
    | _, _ =>
      if properties.isEmpty then throw .malformed
      else s.begin properties.anchor ⟨properties.scalarTag true [], .scalar []⟩

/-- A list in a block, from its start to its end. -/
def blockList (properties : Properties) : Nat → Assembly → Reading (NodeId × Assembly)
  | 0, _ => .error .malformed
  | fuel + 1, s => do
    let (id, s) ← s.beginList properties
    let (items, s) ← blockItems fuel s.drop
    return (id, s.endList id items)

/-- A mapping in a block, from its start to its end. -/
def blockMapping (properties : Properties) : Nat → Assembly → Reading (NodeId × Assembly)
  | 0, _ => .error .malformed
  | fuel + 1, s => do
    let (id, s) ← s.beginMapping properties
    let (entries, s) ← blockEntries fuel s.drop
    return (id, s.endMapping id entries)

/-- The items of a list in a block, up to its end. -/
def blockItems : Nat → Assembly → Reading (List NodeId × Assembly)
  | 0, _ => .error .malformed
  | fuel + 1, s => do
    match ← s.peek with
    | some .blockEnd => return ([], s.drop)
    | some .item =>
      let s := s.drop
      let (first, s) ← match ← s.peek with
        | some .item => pure (s.add .empty)
        | some .blockEnd => pure (s.add .empty)
        | _ => node .block fuel s
      let (rest, s) ← blockItems fuel s
      return (first :: rest, s)
    | _ => throw .malformed

/-- The items of a list without indentation of its own. -/
def dashedItems : Nat → Assembly → Reading (List NodeId × Assembly)
  | 0, _ => .error .malformed
  | fuel + 1, s => do
    match ← s.peek with
    | some .item =>
      let s := s.drop
      let (first, s) ← match ← s.peek with
        | some .item => pure (s.add .empty)
        | some .key => pure (s.add .empty)
        | some .value => pure (s.add .empty)
        | some .blockEnd => pure (s.add .empty)
        | _ => node .block fuel s
      let (rest, s) ← dashedItems fuel s
      return (first :: rest, s)
    | _ => return ([], s)

/-- A key or a value of a mapping in a block; it may be empty. -/
def blockPart : Nat → Assembly → Reading (NodeId × Assembly)
  | 0, _ => .error .malformed
  | fuel + 1, s => do
    match ← s.peek with
    | some .key => return s.add .empty
    | some .value => return s.add .empty
    | some .blockEnd => return s.add .empty
    | _ => node .blockValue fuel s

/-- The entries of a mapping in a block, up to its end. -/
def blockEntries : Nat → Assembly → Reading (List (NodeId × NodeId) × Assembly)
  | 0, _ => .error .malformed
  | fuel + 1, s => do
    match ← s.peek with
    | some .blockEnd => return ([], s.drop)
    | some .key =>
      let (key, s) ← blockPart fuel s.drop
      let (value, s) ← match ← s.peek with
        | some .value => blockPart fuel s.drop
        | _ => pure (s.add .empty)
      let (rest, s) ← blockEntries fuel s
      return ((key, value) :: rest, s)
    | _ => throw .malformed

/-- A key in a flow collection; it may be empty. -/
def flowKey : Nat → Assembly → Reading (NodeId × Assembly)
  | 0, _ => .error .malformed
  | fuel + 1, s => do
    match ← s.peek with
    | some .value => return s.add .empty
    | some .comma => return s.add .empty
    | some .flowListEnd => return s.add .empty
    | some .flowMappingEnd => return s.add .empty
    | _ => node .flow fuel s

/-- The value of a key in a flow collection; it may be left out. -/
def flowValue : Nat → Assembly → Reading (NodeId × Assembly)
  | 0, _ => .error .malformed
  | fuel + 1, s => do
    match ← s.peek with
    | some .value =>
      let s := s.drop
      match ← s.peek with
      | some .comma => return s.add .empty
      | some .flowListEnd => return s.add .empty
      | some .flowMappingEnd => return s.add .empty
      | _ => node .flow fuel s
    | _ => return s.add .empty

/-- The items of a flow list, up to its end. A key makes an item a mapping of one entry. -/
def flowItems (isFirst : Bool) : Nat → Assembly → Reading (List NodeId × Assembly)
  | 0, _ => .error .malformed
  | fuel + 1, s => do
    match ← s.peek with
    | some .flowListEnd => return ([], s.drop)
    | next =>
      let s ← match isFirst, next with
        | true, _ => pure s
        | false, some .comma => pure s.drop
        | false, _ => throw .malformed
      match ← s.peek with
      | some .flowListEnd => return ([], s.drop)
      | some .key =>
        let (id, s) := s.add ⟨.mapping, .mapping []⟩
        let (key, s) ← flowKey fuel s.drop
        let (value, s) ← flowValue fuel s
        let (rest, s) ← flowItems false fuel (s.endMapping id [(key, value)])
        return (id :: rest, s)
      | _ =>
        let (first, s) ← node .flow fuel s
        let (rest, s) ← flowItems false fuel s
        return (first :: rest, s)

/-- The entries of a flow mapping, up to its end. An item without a key is a key by itself. -/
def flowEntries (isFirst : Bool) : Nat → Assembly → Reading (List (NodeId × NodeId) × Assembly)
  | 0, _ => .error .malformed
  | fuel + 1, s => do
    match ← s.peek with
    | some .flowMappingEnd => return ([], s.drop)
    | next =>
      let s ← match isFirst, next with
        | true, _ => pure s
        | false, some .comma => pure s.drop
        | false, _ => throw .malformed
      match ← s.peek with
      | some .flowMappingEnd => return ([], s.drop)
      | some .key =>
        let (key, s) ← flowKey fuel s.drop
        let (value, s) ← flowValue fuel s
        let (rest, s) ← flowEntries false fuel s
        return ((key, value) :: rest, s)
      | _ =>
        let (key, s) ← node .flow fuel s
        let (value, s) := s.add .empty
        let (rest, s) ← flowEntries false fuel s
        return ((key, value) :: rest, s)

end

/-! ### Documents -/

/-- The tag handles that are known without a directive. -/
def defaultHandles : List (String × String) :=
  [("!", "!"), ("!!", standardNamespace)]

/-- The directives in front of a document: the tag handles that they set, and the tokens behind
them. -/
def directives : Bool → List (String × String) → List Token →
    Reading (List (String × String) × List Token)
  | sawVersion, handles, .directive d :: rest =>
    match d with
    | .version major =>
      if sawVersion ∨ major ≠ 1 then .error .malformed else directives true handles rest
    | .handle name tagStart =>
      if (handles.lookup name).isSome then .error .malformed
      else directives sawVersion ((name, tagStart) :: handles) rest
    | .unknown => directives sawVersion handles rest
  | _, handles, rest => .ok (handles ++ defaultHandles, rest)

/-- Behind the directives at the front, which may set tag handles. -/
def takeDirectives (s : Assembly) : Reading Assembly := do
  let (handles, list) ← directives false [] s.tokens.list
  return { s with tokens := { s.tokens with list }, handles }

/-- The tokens without the marks at their front that end a document. -/
def dropDocumentEnds : List Token → List Token
  | .documentEnd :: rest => dropDocumentEnds rest
  | rest => rest

/-- Nothing may follow a document but marks that end it. -/
def finish (s : Assembly) : Reading Unit := do
  let s := { s with tokens := { s.tokens with list := dropDocumentEnds s.tokens.list } }
  if (← s.peek).isNone then return
  let _ ← (← s.takeDirectives).peek
  throw .malformed

/-- The document whose content is at the front; it may be empty only behind a mark. -/
def content (s : Assembly) (isMarked : Bool) : Reading Document := do
  let isEmpty : Bool := match ← s.peek with
    | none => true
    | some (.directive _) => true
    | some .documentStart => true
    | some .documentEnd => true
    | _ => false
  let (root, s) ←
    if isMarked && isEmpty then pure (s.add .empty)
    else node .block (3 * s.tokens.list.length + 3) s
  s.finish
  return ⟨s.nodes, root⟩

/-- The document that starts with directives or a mark. -/
def markedDocument (s : Assembly) : Reading Document := do
  let s ← s.takeDirectives
  match ← s.peek with
  | some .documentStart => s.drop.content true
  | _ => throw .malformed

end Assembly

/-- The document of a stream of tokens, if there is one. -/
def Document.ofTokens (tokens : Tokens) : Reading (Option Document) := do
  let s : Assembly := ⟨tokens, [], Assembly.defaultHandles, #[]⟩
  match ← s.peek with
  | none => return none
  | some (.directive _) => some <$> s.markedDocument
  | some .documentStart => some <$> s.markedDocument
  | _ => some <$> s.content false

end SchemaMigration.Yaml
