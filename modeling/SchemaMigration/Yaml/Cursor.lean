import SchemaMigration.Yaml.Source

/-!
# Positions in YAML text

Indentation carries meaning, so what remains of a text is kept together with its place: the line,
the column and the number of characters before it. A text that cannot be read to its end keeps the
reason for that.
-/

namespace SchemaMigration.Yaml

/-- What remains of a text, and where that starts. -/
structure Cursor where
  rest : List Char
  index : Nat
  line : Nat
  column : Nat
  /-- The number of characters of the whole text. -/
  size : Nat
  /-- Why the text cannot be read beyond what remains. -/
  unread : Option Fault

namespace Cursor

/-- The start of a text. -/
def start (source : Source) : Cursor := ⟨source.chars, 0, 0, 0, source.chars.length, source.unread⟩

/-- Fuel for a loop that takes characters: more than there are in the text. -/
def fuel (c : Cursor) : Nat := c.size + 1

/-- The fault of a text that ends where it must not. -/
def endFault (c : Cursor) : Fault := c.unread.getD .malformed

/-- The next character. -/
def peek (c : Cursor) : Option Char := c.rest.head?

/-- One character further; a byte order mark takes no column. -/
def next (c : Cursor) : Cursor :=
  match c.rest with
  | [] => c
  | x :: rest =>
    if isBreak x && !(x = '\r' && rest.head? = some '\n') then
      { c with rest, index := c.index + 1, line := c.line + 1, column := 0 }
    else
      let column := if x = '\ufeff' then c.column else c.column + 1
      { c with rest, index := c.index + 1, column }

/-- Several characters further. -/
def advance : Nat → Cursor → Cursor
  | 0, c => c
  | n + 1, c => advance n c.next

/-- The characters of the class at the front. -/
def span (p : Char → Bool) (c : Cursor) : List Char := c.rest.takeWhile p

/-- Behind the characters of the class at the front. -/
def skip (p : Char → Bool) (c : Cursor) : Cursor := c.advance (c.span p).length

/-- The line break at the front: the character that it counts as, and what lies behind it. -/
def lineBreak? (c : Cursor) : Option (Char × Cursor) :=
  match c.rest with
  | '\r' :: '\n' :: _ => some ('\n', c.advance 2)
  | x :: _ =>
    if x = '\u2028' ∨ x = '\u2029' then some (x, c.next)
    else if isBreak x then some ('\n', c.next)
    else none
  | [] => none

/-- Does a mark that starts or ends a document stand here? It has to be at the start of a line,
which is left to the caller. -/
def atDocumentMark (c : Cursor) : Bool :=
  match c.rest with
  | '-' :: '-' :: '-' :: rest => endsOr isSeparator rest
  | '.' :: '.' :: '.' :: rest => endsOr isSeparator rest
  | _ => false

/-- Behind the blanks and the comment at the end of a line, if nothing else stands there. -/
def restOfLine? (c : Cursor) : Option Cursor :=
  let c := c.skip (· = ' ')
  let c := if c.peek = some '#' then c.skip (!isBreak ·) else c
  match c.lineBreak? with
  | some (_, c) => some c
  | none => if c.rest.isEmpty then some c else none

end Cursor

end SchemaMigration.Yaml
