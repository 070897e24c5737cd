import SchemaMigration.Yaml.Cursor

/-!
# The texts of scalars

There are five ways to write a scalar: in single or double quotes, without quotes, and as a literal
or a folded block. Each function here reads one from a cursor and returns its text with the cursor
behind it. A single line break between words stands for a space; of several, the first is dropped.
-/

namespace SchemaMigration.Yaml

open Text

/-- What a line break and the empty lines behind it stand for. -/
def foldBreaks (first : Char) (further : List Char) : List Char :=
  if first ≠ '\n' then first :: further
  else if further.isEmpty then [' ']
  else further

/-! ### Quoted scalars -/

/-- The empty lines inside quotes, and the blanks at the start of the line behind them. The mark of
a document must not stand at the start of a line. -/
def quotedBreaks : Nat → Cursor → Reading (List Char × Cursor)
  | 0, _ => .error .malformed
  | fuel + 1, c =>
    if c.atDocumentMark then .error .malformed
    else
      let c := c.skip isSpaceOrTab
      match c.lineBreak? with
      | none => .ok ([], c)
      | some (br, c) => do
        let (more, c) ← quotedBreaks fuel c
        return (br :: more, c)

/-- The blanks and line breaks inside quotes, and what they stand for. -/
def quotedBlank (c : Cursor) : Reading (List Char × Cursor) :=
  let blanks := c.span isSpaceOrTab
  let c := c.skip isSpaceOrTab
  match c.lineBreak? with
  | none => if c.rest.isEmpty then .error c.endFault else .ok (blanks, c)
  | some (br, c) => do
    let (more, c) ← quotedBreaks c.fuel c
    return (foldBreaks br more, c)

/-- The rest of a scalar in single quotes; a quote inside is written twice. -/
def singleQuoted : Nat → Cursor → Reading (List Char × Cursor)
  | 0, _ => .error .malformed
  | fuel + 1, c =>
    match c.rest with
    | [] => .error c.endFault
    | '\'' :: '\'' :: _ => do
      let (more, c) ← singleQuoted fuel (c.advance 2)
      return ('\'' :: more, c)
    | '\'' :: _ => .ok ([], c.next)
    | x :: _ =>
      if isSeparator x then do
        let (blank, c) ← quotedBlank c
        let (more, c) ← singleQuoted fuel c
        return (blank ++ more, c)
      else do
        let (more, c) ← singleQuoted fuel c.next
        return (x :: more, c)

/-- The character that a letter stands for behind a backslash. -/
def escapedChar? : Char → Option Char
  | '0' => some '\x00'
  | 'a' => some '\x07'
  | 'b' => some '\x08'
  | 't' => some '\t'
  | '\t' => some '\t'
  | 'n' => some '\n'
  | 'v' => some '\x0b'
  | 'f' => some '\x0c'
  | 'r' => some '\r'
  | 'e' => some '\x1b'
  | ' ' => some ' '
  | '"' => some '"'
  | '\\' => some '\\'
  | '/' => some '/'
  | 'N' => some '\u0085'
  | '_' => some '\u00a0'
  | 'L' => some '\u2028'
  | 'P' => some '\u2029'
  | _ => none

/-- How many hexadecimal digits follow a letter behind a backslash. -/
def codeLength? : Char → Option Nat
  | 'x' => some 2
  | 'u' => some 4
  | 'U' => some 8
  | _ => none

/-- The number that hexadecimal digits write. -/
def hexNumber? (digits : List Char) : Option Nat :=
  digits.foldlM (fun n c => do return n * 16 + (← Digits.hex? c)) 0

/-- The code point of a number that an escape names. -/
def codePoint (code : Nat) : Reading CodePoint :=
  if code ≤ 0x10ffff then .ok (.ofCode code)
  else if code < 0x80000000 then .error .codeOutOfRange
  else .error .codeTooLarge

/-- What an escape stands for; the cursor is behind the backslash. -/
def escape (c : Cursor) : Reading (List CodePoint × Cursor) :=
  match c.rest with
  | [] => .error c.endFault
  | x :: rest =>
    match escapedChar? x, codeLength? x, c.lineBreak? with
    | some escaped, _, _ => .ok ([.char escaped], c.next)
    | none, some length, _ =>
      match hexNumber? (rest.take length) with
      | none => .error .malformed
      | some code => do
        if rest.length < length then throw c.endFault
        return ([← codePoint code], c.advance (length + 1))
    | none, none, some (_, c) => do
      let (breaks, c) ← quotedBreaks c.fuel c
      return (ofChars breaks, c)
    | none, none, none => .error .malformed

/-- The rest of a scalar in double quotes. -/
def doubleQuoted : Nat → Cursor → Reading (List CodePoint × Cursor)
  | 0, _ => .error .malformed
  | fuel + 1, c =>
    match c.rest with
    | [] => .error c.endFault
    | '"' :: _ => .ok ([], c.next)
    | '\\' :: _ => do
      let (escaped, c) ← escape c.next
      let (more, c) ← doubleQuoted fuel c
      return (escaped ++ more, c)
    | x :: _ =>
      if isSeparator x then do
        let (blank, c) ← quotedBlank c
        let (more, c) ← doubleQuoted fuel c
        return (ofChars blank ++ more, c)
      else do
        let (more, c) ← doubleQuoted fuel c.next
        return (.char x :: more, c)

/-! ### Plain scalars -/

/-- Does a plain scalar end in front of these characters? -/
def endsPlain (inFlow : Bool) : List Char → Bool
  | [] => true
  | c :: rest =>
    isSeparator c ||
      (c = ':' &&
        endsOr (fun d => isSeparator d || (inFlow && [',', '[', ']', '\x7b', '\x7d'].contains d))
          rest) ||
      (inFlow && [',', '?', '[', ']', '\x7b', '\x7d'].contains c)

/-- How many characters of a plain scalar stand at the front, up to a blank. -/
def plainLength (inFlow : Bool) : List Char → Nat
  | [] => 0
  | c :: rest => if endsPlain inFlow (c :: rest) then 0 else plainLength inFlow rest + 1

/-- The blanks between the words of a plain scalar. -/
inductive PlainGap where
  /-- The scalar ends: there are no blanks, or a document starts or ends behind them. -/
  | none (c : Cursor) (sawBreak : Bool)
  /-- What the blanks stand for. -/
  | blank (chars : List Char) (c : Cursor) (sawBreak : Bool)

/-- The empty lines and the indentation behind a line break in a plain scalar; nothing when a mark
of a document follows. -/
def plainBreaks : Nat → Cursor → List Char × Cursor × Bool
  | 0, c => ([], c, false)
  | fuel + 1, c =>
    if c.atDocumentMark then ([], c, true)
    else
      let c := c.skip (· = ' ')
      match c.lineBreak? with
      | none => ([], c, false)
      | some (br, c) =>
        let (more, c, stop) := plainBreaks fuel c
        (br :: more, c, stop)

/-- The blanks behind a word of a plain scalar. -/
def plainGap (c : Cursor) : PlainGap :=
  let blanks := c.span (· = ' ')
  let c := c.skip (· = ' ')
  match c.lineBreak? with
  | none => if blanks.isEmpty then .none c false else .blank blanks c false
  | some (br, c) =>
    let (more, c, stop) := plainBreaks c.fuel c
    if stop then .none c true else .blank (foldBreaks br more) c true

/-- A plain scalar whose further lines are indented at least as given: its text, the cursor behind
it and whether a line break was passed behind its last word. -/
def plain (inFlow : Bool) (indent : Int) : Nat → Cursor → List Char × Cursor × Bool
  | 0, c => ([], c, false)
  | fuel + 1, c =>
    let length := plainLength inFlow c.rest
    let word := c.rest.take length
    match plainGap (c.advance length) with
    | .none c sawBreak => (word, c, sawBreak)
    | .blank gap c sawBreak =>
      if c.peek = some '#' || (!inFlow && decide ((c.column : Int) < indent)) ||
          plainLength inFlow c.rest = 0 then
        (word, c, sawBreak)
      else
        let (more, c, sawBreak) := plain inFlow indent fuel c
        (word ++ gap ++ more, c, sawBreak)

/-! ### Block scalars -/

/-- What becomes of the line breaks at the end of a block scalar. -/
inductive Chomping where
  /-- All of them go. -/
  | strip
  /-- One stays. -/
  | clip
  /-- All of them stay. -/
  | keep

/-- The chomping that a sign asks for. -/
def chomping? : Char → Option Chomping
  | '+' => some .keep
  | '-' => some .strip
  | _ => none

/-- The indentation that a digit asks for; zero is refused. -/
def increment? (c : Char) : Option Nat :=
  if '1' ≤ c ∧ c ≤ '9' then some (c.toNat - '0'.toNat) else none

/-- The indicators of a block scalar, in either order. -/
def blockHeader (c : Cursor) : Chomping × Option Nat × Cursor :=
  match c.rest with
  | a :: rest =>
    match chomping? a with
    | some chomping =>
      match rest.head?.bind increment? with
      | some n => (chomping, some n, c.advance 2)
      | none => (chomping, none, c.next)
    | none =>
      match increment? a with
      | some n =>
        match rest.head?.bind chomping? with
        | some chomping => (chomping, some n, c.advance 2)
        | none => (.clip, some n, c.next)
      | none => (.clip, none, c)
  | [] => (.clip, none, c)

/-- The empty lines in front of a block scalar whose indentation is not given, and the greatest
indentation among them and the first line. -/
def leadingLines : Nat → Nat → Cursor → List Char × Nat × Cursor
  | 0, deepest, c => ([], deepest, c)
  | fuel + 1, deepest, c =>
    let c := c.skip (· = ' ')
    let deepest := max deepest c.column
    match c.lineBreak? with
    | none => ([], deepest, c)
    | some (br, c) =>
      let (more, deepest, c) := leadingLines fuel deepest c
      (br :: more, deepest, c)

/-- Behind at most as many spaces as lead to the given column. -/
def skipIndent (indent : Nat) (c : Cursor) : Cursor :=
  c.advance (min (c.span (· = ' ')).length (indent - c.column))

/-- The empty lines between the lines of a block scalar. -/
def emptyLines (indent : Nat) : Nat → Cursor → List Char × Cursor
  | 0, c => ([], c)
  | fuel + 1, c =>
    let c := skipIndent indent c
    match c.lineBreak? with
    | none => ([], c)
    | some (br, c) =>
      let (more, c) := emptyLines indent fuel c
      (br :: more, c)

/-- What stands between two lines of a block scalar. In a folded one, a line break between lines
that do not start with a blank stands for a space. -/
def lineJoin (folded leadingText nextText : Bool) (br : List Char) (empty : List Char) :
    List Char :=
  if folded && br = ['\n'] && leadingText && nextText then
    if empty.isEmpty then [' '] else []
  else br

/-- The lines of a block scalar, each at the given column: their text, the line break behind the
last one and the empty lines behind that. -/
def blockLines (folded : Bool) (indent : Nat) :
    Nat → Cursor → List Char × List Char × List Char × Cursor
  | 0, c => ([], [], [], c)
  | fuel + 1, c =>
    let isText (c : Cursor) : Bool := !endsOr isSpaceOrTab c.rest
    let line := c.span (!isBreak ·)
    let leadingText := isText c
    let c := c.skip (!isBreak ·)
    let (br, c) := match c.lineBreak? with
      | some (br, c) => ([br], c)
      | none => ([], c)
    let (empty, c) := emptyLines indent c.fuel c
    if c.column = indent ∧ ¬c.rest.isEmpty then
      let join := lineJoin folded leadingText (isText c) br empty
      let (more, lastBreak, tail, c) := blockLines folded indent fuel c
      (line ++ join ++ empty ++ more, lastBreak, tail, c)
    else (line, br, empty, c)

/-- A block scalar behind its `|` or `>`, inside a collection of the given indentation. -/
def block (folded : Bool) (indent : Int) (c : Cursor) : Reading (List Char × Cursor) := do
  let (chomping, increment, c) := blockHeader c
  let .true := endsOr (fun x => x = ' ' || isBreak x) c.rest | throw .malformed
  let some c := c.restOfLine? | throw .malformed
  let least := max (indent + 1).toNat 1
  let (leading, column, c) := match increment with
    | some n =>
      let column := least + n - 1
      let (leading, c) := emptyLines column c.fuel c
      (leading, column, c)
    | none =>
      let (leading, deepest, c) := leadingLines c.fuel 0 c
      (leading, max least deepest, c)
  let (text, lastBreak, tail, c) :=
    if c.column = column ∧ ¬c.rest.isEmpty then
      let (text, lastBreak, tail, c) := blockLines folded column c.fuel c
      (leading ++ text, lastBreak, tail, c)
    else ([], [], leading, c)
  match chomping with
  | .strip => return (text, c)
  | .clip => return (text ++ lastBreak, c)
  | .keep => return (text ++ lastBreak ++ tail, c)

end SchemaMigration.Yaml
