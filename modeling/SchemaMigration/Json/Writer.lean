import SchemaMigration.Outline
import SchemaMigration.Value.Display

/-!
# Writing JSON text

Every item and every field has a line of its own, indented by two spaces a level; an empty list or
record stays on its line. Only quotes, backslashes and control characters are escaped.
-/

namespace SchemaMigration.Json

/-- A character inside a string. -/
def escapeChar (c : Char) : List Char :=
  if c = '"' ∨ c = '\\' then ['\\', c]
  else if c = '\n' then ['\\', 'n']
  else if c = '\r' then ['\\', 'r']
  else if c = '\t' then ['\\', 't']
  else if c = '\x08' then ['\\', 'b']
  else if c = '\x0c' then ['\\', 'f']
  else if c.toNat < 0x20 then '\\' :: 'u' :: Text.hex 4 c.toNat
  else [c]

/-- A string with its quotes. -/
def quote (text : String) : List Char :=
  '"' :: text.toList.flatMap escapeChar ++ ['"']

/-- A line end and the indentation of a level. -/
def newline (level : Nat) : List Char :=
  '\n' :: List.replicate (2 * level) ' '

mutual

/-- The text of a document that stands at the given level. -/
def write (level : Nat) : Outline → List Char
  | .text s => quote s
  | .number n => Nat.toDigits 10 n
  | .list [] => ['[', ']']
  | .list (first :: rest) =>
    '[' :: newline (level + 1) ++ write (level + 1) first ++ writeItems (level + 1) rest ++
      newline level ++ [']']
  | .record [] => ['\x7b', '\x7d']
  | .record ((name, value) :: rest) =>
    '\x7b' :: newline (level + 1) ++ quote name ++ ':' :: ' ' :: write (level + 1) value ++
      writeFields (level + 1) rest ++ newline level ++ ['\x7d']

/-- The texts of further items, each behind a comma. -/
def writeItems (level : Nat) : List Outline → List Char
  | [] => []
  | first :: rest => ',' :: newline level ++ write level first ++ writeItems level rest

/-- The texts of further fields, each behind a comma. -/
def writeFields (level : Nat) : List (String × Outline) → List Char
  | [] => []
  | (name, value) :: rest =>
    ',' :: newline level ++ quote name ++ ':' :: ' ' :: write level value ++
      writeFields level rest

end

/-- The JSON text of a document. -/
def render (document : Outline) : String :=
  String.ofList (write 0 document)

end SchemaMigration.Json
