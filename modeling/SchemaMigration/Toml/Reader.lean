import SchemaMigration.Toml.Scalar
import SchemaMigration.Toml.Table

/-!
# Reading TOML text
-/

namespace SchemaMigration.Toml

/-- The result, if there is one. -/
def orMalformed {α : Type} : Option α → Reading α
  | some a => .ok a
  | none => .error .malformed

mutual

/-- The value at the front. -/
def value : Nat → List Char → Reading (Value × List Char)
  | 0, _ => .error .malformed
  | fuel + 1, cs =>
    match cs with
    | '[' :: rest => do
      let (items, rest) ← arrayItems fuel (← skipGaps fuel rest)
      return (.list items, rest)
    | '\x7b' :: rest => do
      let (items, rest) ← match skipBlanks rest with
        | '\x7d' :: rest => pure ([], rest)
        | rest => inlineItems fuel [] rest
      return (.mapping (Items.toEntries items), rest)
    | _ => scalar cs

/-- The items of an array up to its end; a comma may stand behind the last one. -/
def arrayItems : Nat → List Char → Reading (List Value × List Char)
  | 0, _ => .error .malformed
  | fuel + 1, cs =>
    match cs with
    | ']' :: rest => .ok ([], rest)
    | _ => do
      let (first, rest) ← value fuel cs
      match ← skipGaps fuel rest with
      | ']' :: rest => return ([first], rest)
      | ',' :: rest =>
        let (others, rest) ← arrayItems fuel (← skipGaps fuel rest)
        return (first :: others, rest)
      | _ => throw .malformed

/-- The items of an inline table up to its end, added to those that were read. -/
def inlineItems : Nat → Items → List Char → Reading (Items × List Char)
  | 0, _, _ => .error .malformed
  | fuel + 1, items, cs => do
    let (name, v, rest) ← keyValue fuel cs
    let items ← orMalformed (items.add 0 v name)
    match skipBlanks rest with
    | '\x7d' :: rest => return (items, rest)
    | ',' :: rest => inlineItems fuel items (skipBlanks rest)
    | _ => throw .malformed

/-- A key and its value. -/
def keyValue : Nat → List Char → Reading (List String × Value × List Char)
  | 0, _ => .error .malformed
  | fuel + 1, cs => do
    let (name, rest) ← key cs.length cs
    match rest with
    | '=' :: rest =>
      let (v, rest) ← value fuel (skipBlanks rest)
      return (name, v, rest)
    | _ => throw .malformed

end

/-- What was read of a document: the items of its root, the key of the current section, and how many
sections there were. -/
structure Reader where
  items : Items
  header : List String
  sections : Nat

namespace Reader

/-- A new section: its header is the key of a table, or of an array of tables that gets one more. -/
def openSection (r : Reader) (isElement : Bool) (name : List String) : Reading Reader := do
  let some last := name.getLast? | throw .malformed
  let opened := if isElement then Items.openElement last else Items.openTable last
  let items ← orMalformed (r.items.within opened name.dropLast)
  return ⟨items, name, r.sections + 1⟩

/-- A statement at the front, behind blanks: a header, a key with its value, or nothing. -/
def statement (r : Reader) (cs : List Char) : Reading (Reader × List Char) :=
  match cs with
  | '[' :: '[' :: rest => do
    match ← key rest.length (skipBlanks rest) with
    | (name, ']' :: ']' :: rest) => return (← r.openSection true name, rest)
    | _ => throw .malformed
  | '[' :: rest => do
    match ← key rest.length (skipBlanks rest) with
    | (name, ']' :: rest) => return (← r.openSection false name, rest)
    | _ => throw .malformed
  | [] => .ok (r, [])
  | c :: _ =>
    if c = '\n' ∨ c = '#' then .ok (r, cs)
    else do
      let (name, v, rest) ← keyValue (2 * cs.length + 2) cs
      let items ← orMalformed (r.items.within (Items.add r.sections v name) r.header)
      return (⟨items, r.header, r.sections⟩, rest)

/-- All statements of a document, one a line. -/
def statements : Nat → Reader → List Char → Reading Reader
  | 0, _, _ => .error .malformed
  | fuel + 1, r, cs => do
    let (r, rest) ← r.statement (skipBlanks cs)
    match ← skipComment (skipBlanks rest) with
    | [] => return r
    | '\n' :: rest => statements fuel r rest
    | _ => throw .malformed

end Reader

/-- The text with `CR LF` read as a line feed. -/
def unifyLineEnds : List Char → List Char
  | [] => []
  | '\r' :: '\n' :: rest => '\n' :: unifyLineEnds rest
  | c :: rest => c :: unifyLineEnds rest

/-- The table that a text writes. -/
def read (text : List Char) : Except Fault Entries := do
  let cs := unifyLineEnds text
  let r ← Reader.statements (cs.length + 1) ⟨[], [], 0⟩ cs
  return Items.toEntries r.items

end SchemaMigration.Toml
