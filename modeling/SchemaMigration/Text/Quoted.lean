import SchemaMigration.Text.CodePoint
import SchemaMigration.Text.Printable

/-!
# Texts in quotes

A text is put into single quotes, or into double quotes if that saves escapes. What cannot be
printed is written by its code.
-/

namespace SchemaMigration.Text

/-- A number in hexadecimal, with leading zeros up to the given width. -/
def hex (width n : Nat) : List Char :=
  let digits := Nat.toDigits 16 n
  List.replicate (width - digits.length) '0' ++ digits

/-- The quote for a text: a double quote where single quotes would have to be escaped. -/
def quoteFor (text : List CodePoint) : Char :=
  if text.contains (.char '\'') && !text.contains (.char '"') then '"' else '\''

/-- A code that is written instead of what it stands for. -/
def escapedCode (code : Nat) : List Char :=
  if code < 0x100 then '\\' :: 'x' :: hex 2 code
  else if code < 0x10000 then '\\' :: 'u' :: hex 4 code
  else '\\' :: 'U' :: hex 8 code

/-- A code point inside quotes. -/
def quotedCodePoint (quote : Char) : CodePoint → List Char
  | .half code _ => escapedCode code
  | .char c =>
    if c = quote ∨ c = '\\' then ['\\', c]
    else if c = '\t' then ['\\', 't']
    else if c = '\n' then ['\\', 'n']
    else if c = '\r' then ['\\', 'r']
    else if isPrintable c then [c]
    else escapedCode c.toNat

/-- A text of code points in quotes. -/
def quotedCodePoints (text : List CodePoint) : String :=
  let quote := quoteFor text
  String.ofList (quote :: text.flatMap (quotedCodePoint quote) ++ [quote])

/-- A text in quotes. -/
def quoted (text : String) : String := quotedCodePoints (ofChars text.toList)

/-- Bytes in quotes; all but printable ASCII is written by its code. -/
def quotedBytes (bytes : List UInt8) : String :=
  let quote := quoteFor (bytes.map fun byte => .char (Char.ofNat byte.toNat))
  let one (byte : UInt8) : List Char :=
    if byte < 0x80 then quotedCodePoint quote (.char (Char.ofNat byte.toNat))
    else escapedCode byte.toNat
  String.ofList ('b' :: quote :: bytes.flatMap one ++ [quote])

end SchemaMigration.Text
