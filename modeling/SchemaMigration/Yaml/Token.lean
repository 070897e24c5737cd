import SchemaMigration.Yaml.Scalar

/-!
# The tokens of YAML

Indentation becomes tokens that open and close block collections. Besides the tokens themselves,
this module reads those that are words: directives, anchors and tags.
-/

namespace SchemaMigration.Yaml

/-- What a directive says. -/
inductive Directive where
  | version (major : Nat)
  | handle (name tagStart : String)
  | unknown

/-- A token. -/
inductive Token where
  | directive (d : Directive)
  | documentStart
  | documentEnd
  | listStart
  | mappingStart
  | blockEnd
  | flowListStart
  | flowListEnd
  | flowMappingStart
  | flowMappingEnd
  | item
  | comma
  | key
  | value
  | reference (name : String)
  | anchor (name : String)
  /-- A tag: its handle, unless it is written in full, and what follows it. -/
  | tag (handle : Option String) (suffix : String)
  | scalar (text : List Text.CodePoint) (isPlain : Bool)

/-! ### Directives, anchors and tags -/

/-- The word at the front, which must not be empty. -/
def word (c : Cursor) : Reading (String × Cursor) :=
  match c.span isWordChar with
  | [] => .error .malformed
  | cs => .ok (String.ofList cs, c.skip isWordChar)

/-- The handle of a tag: an exclamation mark, or a word between two of them. -/
def tagHandle (c : Cursor) : Reading (String × Cursor) :=
  match c.rest with
  | '!' :: rest =>
    if rest.head? = some ' ' then .ok ("!", c.next)
    else
      let inner := c.next.span isWordChar
      let behind := c.next.skip isWordChar
      if behind.peek = some '!' then .ok (String.ofList ('!' :: inner ++ ['!']), behind.next)
      else .error .malformed
  | _ => .error .malformed

/-- May the character stand in a tag as it is? -/
def isUriChar (c : Char) : Bool :=
  c.isAlphanum || "-;/?:@&=+$,_.!~*'()[]".toList.contains c

/-- The bytes of the rest of a tag, and how many characters they are written with. -/
def uriBytes : List Char → Reading (List UInt8 × Nat)
  | '%' :: a :: b :: rest =>
    match Digits.hex? a, Digits.hex? b with
    | some high, some low => do
      let (more, length) ← uriBytes rest
      return ((high * 16 + low).toUInt8 :: more, length + 3)
    | _, _ => .error .malformed
  | c :: rest =>
    if c = '%' then .error .malformed
    else if isUriChar c then do
      let (more, length) ← uriBytes rest
      return (c.toNat.toUInt8 :: more, length + 1)
    else .ok ([], 0)
  | [] => .ok ([], 0)

/-- The rest of a tag, which must not be empty. -/
def uri (c : Cursor) : Reading (String × Cursor) := do
  let (bytes, length) ← uriBytes c.rest
  if bytes.isEmpty then throw .malformed
  match Text.ofUtf8 bytes with
  | .ok text => return (String.ofList text, c.advance length)
  | .error _ => throw .malformed

/-- Is the cursor in front of a space, a line break or the end? -/
def beforeGap (c : Cursor) : Bool :=
  endsOr (fun x => x = ' ' || isBreak x) c.rest

/-- A tag. -/
def tag (c : Cursor) : Reading (Token × Cursor) := do
  let (token, c) ← match c.rest.drop 1 with
    | '<' :: _ => do
      let (suffix, c) ← uri (c.advance 2)
      if c.peek = some '>' then pure (Token.tag none suffix, c.next) else throw .malformed
    | rest =>
      if endsOr isSeparator rest then pure (.tag none "!", c.next)
      else if (rest.takeWhile fun x => !(x = ' ' || isBreak x)).contains '!' then do
        let (handle, c) ← tagHandle c
        let (suffix, c) ← uri c
        pure (.tag (some handle) suffix, c)
      else do
        let (suffix, c) ← uri c.next
        pure (.tag (some "!") suffix, c)
  if beforeGap c then return (token, c) else throw .malformed

/-- The name of an anchor or of an alias; the cursor is behind its indicator. -/
def anchorName (c : Cursor) : Reading (String × Cursor) := do
  let (name, c) ← word c
  if endsOr (fun x => isSeparator x || "?:,]\x7d%@\x60".toList.contains x) c.rest then
    return (name, c)
  else throw .malformed

/-- The number of a version directive. -/
def versionNumber (c : Cursor) : Reading (Nat × Cursor) :=
  match c.span Char.isDigit with
  | [] => .error .malformed
  | digits =>
    if Digits.limit < digits.length then .error (.badNumber (.tooManyDigits digits.length))
    else .ok (Digits.toNat digits, c.skip Char.isDigit)

/-- A directive, up to the end of its line; the cursor is behind its percent sign. -/
def directive (c : Cursor) : Reading (Token × Cursor) := do
  let (name, c) ← word c
  if !beforeGap c then throw .malformed
  let (what, c) ← match name with
    | "YAML" => do
      let (major, c) ← versionNumber (c.skip (· = ' '))
      if c.peek ≠ some '.' then throw .malformed
      let (_, c) ← versionNumber c.next
      if beforeGap c then pure (Directive.version major, c) else throw .malformed
    | "TAG" => do
      let (handle, c) ← tagHandle (c.skip (· = ' '))
      if c.peek ≠ some ' ' then throw .malformed
      let (tagStart, c) ← uri (c.skip (· = ' '))
      if beforeGap c then pure (.handle handle tagStart, c) else throw .malformed
    | _ => pure (.unknown, c.skip (!isBreak ·))
  match c.restOfLine? with
  | some c => return (.directive what, c)
  | none => throw .malformed

end SchemaMigration.Yaml
