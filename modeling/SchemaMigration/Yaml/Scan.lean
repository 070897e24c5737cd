import SchemaMigration.Yaml.Token

/-!
# The tokens of a YAML text

A scalar, an alias or a collection may turn out to be the key of a mapping only when the colon
behind it is reached, so the places of possible keys are kept, one for each level of flow
collections, and the tokens that a key needs are put in at its place afterwards. A key has to end on
the line where it starts, within 1024 characters.

A fault ends the tokens. Those in front of it can be told, but for what stands behind a possible key
about which nothing is known yet.
-/

namespace SchemaMigration.Yaml

/-- The tokens of a text up to the first fault, if there is one. -/
structure Tokens where
  list : List Token
  fault : Option Fault

/-- A place where the key of a mapping may have started. -/
structure KeySite where
  /-- How many tokens stand in front of it. -/
  position : Nat
  /-- Must it be a key? So it is at the indentation of a block mapping. -/
  required : Bool
  index : Nat
  line : Nat
  column : Nat

/-- Where the scan is and what it knows. -/
structure Scan where
  cursor : Cursor
  /-- The tokens so far, the last one first. -/
  tokens : List Token
  count : Nat
  /-- The indentation of the current block collection, -1 outside of all. -/
  indent : Int
  /-- The indentations of the collections around it. -/
  outer : List Int
  flowLevel : Nat
  /-- May a key start here? -/
  allowKey : Bool
  /-- The possible keys, with their levels of flow collections. -/
  keySites : List (Nat × KeySite)

namespace Scan

/-- The state at the start of a text, behind the byte order mark that may stand there. -/
def start (source : Source) : Scan :=
  let cursor := Cursor.start source
  let cursor := if cursor.peek = some '\ufeff' then cursor.next else cursor
  ⟨cursor, [], 0, -1, [], 0, true, []⟩

/-- One token more. -/
def push (s : Scan) (token : Token) : Scan :=
  { s with tokens := token :: s.tokens, count := s.count + 1 }

/-- One token more, at the given place. -/
def insertAt (s : Scan) (position : Nat) (token : Token) : Scan :=
  { s with tokens := s.tokens.insertIdx (s.count - position) token, count := s.count + 1 }

/-- A token of the given number of characters. -/
def take (s : Scan) (length : Nat) (token : Token) : Scan :=
  { s.push token with cursor := s.cursor.advance length }

/-- Drops the possible keys that have become too long; a required one is missed. -/
def dropStaleKeys (s : Scan) : Reading Scan :=
  let stale (entry : Nat × KeySite) : Bool :=
    entry.2.line ≠ s.cursor.line || 1024 < s.cursor.index - entry.2.index
  if s.keySites.any fun entry => stale entry && entry.2.required then .error .malformed
  else .ok { s with keySites := s.keySites.filter (!stale ·) }

/-- Drops the possible key of the current level; a required one is missed. -/
def dropKey (s : Scan) : Reading Scan :=
  match s.keySites.lookup s.flowLevel with
  | some site =>
    if site.required then .error .malformed
    else .ok { s with keySites := s.keySites.filter (·.1 ≠ s.flowLevel) }
  | none => .ok s

/-- Notes that a key may start here. -/
def noteKey (s : Scan) : Reading Scan := do
  if !s.allowKey then return s
  let required := s.flowLevel = 0 && s.indent = s.cursor.column
  let s ← s.dropKey
  let site : KeySite := ⟨s.count, required, s.cursor.index, s.cursor.line, s.cursor.column⟩
  return { s with keySites := (s.flowLevel, site) :: s.keySites }

/-- Closes the block collections that are indented further than the column. -/
def unwind (s : Scan) (column : Int) : Scan :=
  let rec close : List Int → Scan → Scan
    | [], s => s
    | indent :: outer, s =>
      if column < s.indent then close outer { s.push .blockEnd with indent, outer } else s
  if s.flowLevel = 0 then close s.outer s else s

/-- Opens a block collection at the column, unless it is open already. -/
def isDeeper (s : Scan) (column : Nat) : Bool := s.indent < column

/-- The state inside a block collection at the column. -/
def deepen (s : Scan) (column : Nat) : Scan :=
  { s with outer := s.indent :: s.outer, indent := column }

/-- Opens a block collection here with the given token, unless one is open at this column. -/
def openHere (s : Scan) (token : Token) : Scan :=
  if s.isDeeper s.cursor.column then (s.push token).deepen s.cursor.column else s

/-- Behind blanks, comments and line breaks. Behind a line break in a block, a key may start. -/
def skipBlank : Nat → Scan → Scan
  | 0, s => s
  | fuel + 1, s =>
    let c := s.cursor.skip (· = ' ')
    let c := if c.peek = some '#' then c.skip (!isBreak ·) else c
    match c.lineBreak? with
    | some (_, c) =>
      skipBlank fuel { s with cursor := c, allowKey := s.allowKey || s.flowLevel = 0 }
    | none => { s with cursor := c }

/-! ### The kinds of tokens -/

/-- The end of all collections, in front of a directive or a mark of a document. -/
def closeDocument (s : Scan) : Reading Scan := do
  let s ← (s.unwind (-1)).dropKey
  return { s with allowKey := false }

/-- A directive. -/
def takeDirective (s : Scan) : Reading Scan := do
  let s ← s.closeDocument
  let (token, cursor) ← directive s.cursor.next
  return { s.push token with cursor }

/-- A mark that starts or ends a document. -/
def takeMark (s : Scan) (token : Token) : Reading Scan := do
  return (← s.closeDocument).take 3 token

/-- The start of a flow collection. -/
def openFlow (s : Scan) (token : Token) : Reading Scan := do
  let s ← s.noteKey
  return { s.take 1 token with flowLevel := s.flowLevel + 1, allowKey := true }

/-- The end of a flow collection, which has to be open. -/
def closeFlow (s : Scan) (token : Token) : Reading Scan := do
  let s ← s.dropKey
  if s.flowLevel = 0 then throw .malformed
  return { s.take 1 token with flowLevel := s.flowLevel - 1, allowKey := false }

/-- A comma of a flow collection. -/
def takeComma (s : Scan) : Reading Scan := do
  let s ← s.dropKey
  return { s.take 1 .comma with allowKey := true }

/-- The dash of an item; in a block it may open a list. -/
def takeItem (s : Scan) : Reading Scan := do
  if s.flowLevel = 0 && !s.allowKey then throw .malformed
  let s := if s.flowLevel = 0 then s.openHere .listStart else s
  let s ← s.dropKey
  return { s.take 1 .item with allowKey := true }

/-- The question mark of a key; in a block it may open a mapping. -/
def takeKey (s : Scan) : Reading Scan := do
  if s.flowLevel = 0 && !s.allowKey then throw .malformed
  let s := if s.flowLevel = 0 then s.openHere .mappingStart else s
  let s ← s.dropKey
  return { s.take 1 .key with allowKey := s.flowLevel = 0 }

/-- The colon of a value. It makes a key of what may be one; in a block that may open a mapping. -/
def takeValue (s : Scan) : Reading Scan := do
  match s.keySites.lookup s.flowLevel with
  | some site =>
    let s := { s with keySites := s.keySites.filter (·.1 ≠ s.flowLevel) }
    let s := s.insertAt site.position .key
    let s :=
      if s.flowLevel = 0 && s.isDeeper site.column then
        (s.insertAt site.position .mappingStart).deepen site.column
      else s
    return { s.take 1 .value with allowKey := false }
  | none =>
    if s.flowLevel = 0 && !s.allowKey then throw .malformed
    let s := if s.flowLevel = 0 then s.openHere .mappingStart else s
    let s ← s.dropKey
    return { s.take 1 .value with allowKey := s.flowLevel = 0 }

/-- An alias or an anchor. -/
def takeName (s : Scan) (make : String → Token) : Reading Scan := do
  let s ← s.noteKey
  let (name, cursor) ← anchorName s.cursor.next
  return { s.push (make name) with cursor, allowKey := false }

/-- A tag. -/
def takeTag (s : Scan) : Reading Scan := do
  let s ← s.noteKey
  let (token, cursor) ← tag s.cursor
  return { s.push token with cursor, allowKey := false }

/-- A block scalar. -/
def takeBlock (s : Scan) (folded : Bool) : Reading Scan := do
  let s ← s.dropKey
  let (text, cursor) ← block folded s.indent s.cursor.next
  return { s.push (.scalar (Text.ofChars text) false) with cursor, allowKey := true }

/-- A scalar in single quotes. -/
def takeSingleQuoted (s : Scan) : Reading Scan := do
  let s ← s.noteKey
  let (text, cursor) ← singleQuoted s.cursor.fuel s.cursor.next
  return { s.push (.scalar (Text.ofChars text) false) with cursor, allowKey := false }

/-- A scalar in double quotes. -/
def takeDoubleQuoted (s : Scan) : Reading Scan := do
  let s ← s.noteKey
  let (text, cursor) ← doubleQuoted s.cursor.fuel s.cursor.next
  return { s.push (.scalar text false) with cursor, allowKey := false }

/-- A plain scalar. -/
def takePlain (s : Scan) : Reading Scan := do
  let s ← s.noteKey
  let (text, cursor, sawBreak) :=
    plain (s.flowLevel ≠ 0) (s.indent + 1) s.cursor.fuel s.cursor
  return { s.push (.scalar (Text.ofChars text) true) with cursor, allowKey := sawBreak }

/-- Can a plain scalar start with these characters? -/
def startsPlain (inFlow : Bool) : List Char → Bool
  | [] => false
  | c :: rest =>
    if isSeparator c then false
    else if c = '-' then !endsOr isSeparator rest
    else if c = '?' ∨ c = ':' then !inFlow && !endsOr isSeparator rest
    else !",[]\x7b\x7d#&*!|>'\"%@\x60".toList.contains c

/-- The next token, the first character of which is at the front. -/
def takeToken (s : Scan) : Reading Scan :=
  let inFlow := s.flowLevel ≠ 0
  let atStart := s.cursor.column = 0
  match s.cursor.rest with
  | [] => .error .malformed
  | c :: rest =>
    let beforeBlank := endsOr isSeparator rest
    if c = '%' ∧ atStart then s.takeDirective
    else if atStart ∧ c = '-' ∧ s.cursor.atDocumentMark then s.takeMark .documentStart
    else if atStart ∧ c = '.' ∧ s.cursor.atDocumentMark then s.takeMark .documentEnd
    else if c = '[' then s.openFlow .flowListStart
    else if c = '\x7b' then s.openFlow .flowMappingStart
    else if c = ']' then s.closeFlow .flowListEnd
    else if c = '\x7d' then s.closeFlow .flowMappingEnd
    else if c = ',' then s.takeComma
    else if c = '-' ∧ beforeBlank then s.takeItem
    else if c = '?' ∧ (inFlow ∨ beforeBlank) then s.takeKey
    else if c = ':' ∧ (inFlow ∨ beforeBlank) then s.takeValue
    else if c = '*' then s.takeName .reference
    else if c = '&' then s.takeName .anchor
    else if c = '!' then s.takeTag
    else if c = '|' ∧ ¬inFlow then s.takeBlock false
    else if c = '>' ∧ ¬inFlow then s.takeBlock true
    else if c = '\'' then s.takeSingleQuoted
    else if c = '"' then s.takeDoubleQuoted
    else if startsPlain inFlow (c :: rest) then s.takePlain
    else .error .malformed

/-! ### All tokens -/

/-- How many of the tokens so far can be told: those in front of every possible key. -/
def known (s : Scan) : Nat :=
  s.keySites.foldl (fun count entry => min count entry.2.position) s.count

/-- The state behind the next token, or behind the last one: then there is nothing left to read. A
text that cannot be read further has no last token. -/
def step (s : Scan) : Reading (Scan × Bool) := do
  let s := s.skipBlank s.cursor.fuel
  if s.cursor.rest.isEmpty then
    if let some fault := s.cursor.unread then throw fault
  let s ← s.dropStaleKeys
  let s := s.unwind s.cursor.column
  if s.cursor.rest.isEmpty then return (← (s.unwind (-1)).dropKey, true)
  else
    let s ← s.takeToken
    match s.cursor.rest, s.cursor.unread with
    | [], some fault => throw fault
    | _, _ => return (s, false)

/-- The first tokens, and the fault that follows them. -/
def stopAt (s : Scan) (count : Nat) (fault : Fault) : Tokens :=
  ⟨s.tokens.reverse.take count, some fault⟩

/-- All tokens; as many as given can be told already. -/
def run : Nat → Nat → Scan → Tokens
  | 0, count, s => s.stopAt count .malformed
  | fuel + 1, count, s =>
    match s.dropStaleKeys with
    | .error fault => s.stopAt count fault
    | .ok s =>
      let count := max count s.known
      match s.step with
      | .error fault => s.stopAt count fault
      | .ok (s, isLast) => if isLast then ⟨s.tokens.reverse, none⟩ else run fuel count s

end Scan

/-- The tokens of a text. -/
def Tokens.ofSource (source : Source) : Tokens :=
  (Scan.start source).run (source.chars.length + 1) 0

end SchemaMigration.Yaml
