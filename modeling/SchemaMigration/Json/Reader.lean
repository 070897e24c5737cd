import SchemaMigration.Number.Digits
import SchemaMigration.Value.Basic

/-!
# Reading JSON text

The reader works on the characters that remain and reports a fault together with what remained where
it was noticed; `Json.read` turns that into an offset, a line and a column. Besides the standard it
accepts `NaN`, `Infinity` and `-Infinity`. A number with a fraction or an exponent is a double, any
other number an integer without bounds; a repeated key keeps its first place and takes the last
value.
-/

namespace SchemaMigration.Json

open Text (CodePoint)

/-- What is wrong with a text. -/
inductive Fault where
  | expectedValue
  | expectedName
  | expectedColon
  | expectedComma
  | extraData
  | unterminatedString
  | controlCharacter
  | badEscape
  | badCodeEscape
  | byteOrderMark
  /-- An integer with more digits than are read. -/
  | tooManyDigits (count : Nat)
  deriving DecidableEq

/-- A fault and what remained of the text where it was noticed. -/
structure Failure where
  fault : Fault
  rest : List Char

/-- A result, or a failure to read one. -/
abbrev Reading := Except Failure

/-- Is the character white space between tokens? -/
def isSpace (c : Char) : Bool :=
  c = ' ' || c = '\t' || c = '\n' || c = '\r'

/-- What remains after the white space. -/
def skipSpace (cs : List Char) : List Char :=
  cs.dropWhile isSpace

/-- The number that four hexadecimal digits write. -/
def hexCode? (a b c d : Char) : Option Nat := do
  let a ← Digits.hex? a
  let b ← Digits.hex? b
  let c ← Digits.hex? c
  let d ← Digits.hex? d
  return ((a * 16 + b) * 16 + c) * 16 + d

/-- The character that a letter stands for behind a backslash. -/
def shortEscape? : Char → Option Char
  | '"' => some '"'
  | '\\' => some '\\'
  | '/' => some '/'
  | 'b' => some '\x08'
  | 'f' => some '\x0c'
  | 'n' => some '\n'
  | 'r' => some '\r'
  | 't' => some '\t'
  | _ => none

/-- The character of two halves of a surrogate pair, if they are halves of one. -/
def joinSurrogates? (high low : Nat) : Option CodePoint :=
  if 0xd800 ≤ high ∧ high < 0xdc00 ∧ 0xdc00 ≤ low ∧ low < 0xe000 then
    some (.ofCode (0x10000 + (high - 0xd800) * 0x400 + (low - 0xdc00)))
  else none

/-- Puts a code point in front of the string that is read. -/
def consCode (c : CodePoint) :
    Reading (List CodePoint × List Char) → Reading (List CodePoint × List Char)
  | .ok (cs, rest) => .ok (c :: cs, rest)
  | .error failure => .error failure

/-- The text up to the closing quote. An escape by code has to be followed by something. -/
def stringBody (start : List Char) : List Char → Reading (List CodePoint × List Char)
  | [] => .error ⟨.unterminatedString, start⟩
  | '"' :: rest => .ok ([], rest)
  | ['\\'] => .error ⟨.unterminatedString, start⟩
  | '\\' :: 'u' :: a :: b :: c :: d :: '\\' :: 'u' :: e :: f :: g :: h :: next :: rest =>
    match hexCode? a b c d with
    | none => .error ⟨.badCodeEscape, 'u' :: a :: b :: c :: d :: '\\' :: 'u' :: e :: f :: g :: h ::
        next :: rest⟩
    | some high =>
      match (hexCode? e f g h).bind (joinSurrogates? high) with
      | some joined => consCode joined (stringBody start (next :: rest))
      | none =>
        consCode (.ofCode high)
          (stringBody start ('\\' :: 'u' :: e :: f :: g :: h :: next :: rest))
  | '\\' :: 'u' :: a :: b :: c :: d :: next :: rest =>
    match hexCode? a b c d with
    | none => .error ⟨.badCodeEscape, 'u' :: a :: b :: c :: d :: next :: rest⟩
    | some code => consCode (.ofCode code) (stringBody start (next :: rest))
  | '\\' :: 'u' :: rest => .error ⟨.badCodeEscape, 'u' :: rest⟩
  | '\\' :: c :: rest =>
    match shortEscape? c with
    | some escaped => consCode (.char escaped) (stringBody start rest)
    | none => .error ⟨.badEscape, '\\' :: c :: rest⟩
  | c :: rest =>
    if c.toNat < 0x20 then .error ⟨.controlCharacter, c :: rest⟩
    else consCode (.char c) (stringBody start rest)

/-- The string whose opening quote was read; a string that does not end is reported there. -/
def string (rest : List Char) : Reading (List CodePoint × List Char) :=
  stringBody ('"' :: rest) rest

/-- The whole part of a number: a zero by itself, or digits that do not start with one. -/
def wholeDigits? : List Char → Option (List Char × List Char)
  | '0' :: rest => some (['0'], rest)
  | c :: rest => if c.isDigit then some (Digits.split (c :: rest)) else none
  | [] => none

/-- The digits behind a point, if there are any. -/
def fraction? : List Char → Option (List Char × List Char)
  | '.' :: c :: rest => if c.isDigit then some (Digits.split (c :: rest)) else none
  | _ => none

/-- A number without its sign. -/
def magnitude (negative : Bool) (start cs : List Char) : Reading (Value × List Char) :=
  match wholeDigits? cs with
  | none => .error ⟨.expectedValue, start⟩
  | some (whole, rest) =>
    let fraction := fraction? rest
    let rest := (fraction.map (·.2)).getD rest
    let exponent := Digits.exponent? rest
    let rest := (exponent.map (·.2)).getD rest
    if fraction.isNone && exponent.isNone then
      if Digits.limit < whole.length then .error ⟨.tooManyDigits whole.length, start⟩
      else
        let n : Int := Digits.toNat whole
        .ok (.int (if negative then -n else n), rest)
    else
      let places := (fraction.map (·.1)).getD []
      let scale := (exponent.map (·.1)).getD 0
      let x := Double.ofDecimal negative (Digits.toNat (whole ++ places)) (scale - places.length)
      .ok (.float x, rest)

/-- A value that is neither a string nor a list nor a mapping. -/
def scalar : List Char → Reading (Value × List Char)
  | 'n' :: 'u' :: 'l' :: 'l' :: rest => .ok (.null, rest)
  | 't' :: 'r' :: 'u' :: 'e' :: rest => .ok (.bool true, rest)
  | 'f' :: 'a' :: 'l' :: 's' :: 'e' :: rest => .ok (.bool false, rest)
  | 'N' :: 'a' :: 'N' :: rest => .ok (.float .nan, rest)
  | 'I' :: 'n' :: 'f' :: 'i' :: 'n' :: 'i' :: 't' :: 'y' :: rest =>
    .ok (.float (.infinite false), rest)
  | '-' :: 'I' :: 'n' :: 'f' :: 'i' :: 'n' :: 'i' :: 't' :: 'y' :: rest =>
    .ok (.float (.infinite true), rest)
  | '-' :: rest => magnitude true ('-' :: rest) rest
  | cs => magnitude false cs cs

mutual

/-- The value at the front. -/
def value : Nat → List Char → Reading (Value × List Char)
  | 0, cs => .error ⟨.expectedValue, cs⟩
  | fuel + 1, cs =>
    match cs with
    | '"' :: rest => do
      let (codes, rest) ← string rest
      return (.ofCodePoints codes, rest)
    | '[' :: rest =>
      match skipSpace rest with
      | ']' :: rest => .ok (.list [], rest)
      | rest => do
        let (items, rest) ← items fuel rest
        return (.list items, rest)
    | '\x7b' :: rest =>
      match skipSpace rest with
      | '\x7d' :: rest => .ok (.mapping [], rest)
      | rest => do
        let (entries, rest) ← entries fuel [] rest
        return (.mapping entries, rest)
    | cs => scalar cs

/-- The items of a list up to its closing bracket, the first one at the front. -/
def items : Nat → List Char → Reading (List Value × List Char)
  | 0, cs => .error ⟨.expectedValue, cs⟩
  | fuel + 1, cs => do
    let (first, rest) ← value fuel cs
    match skipSpace rest with
    | ']' :: rest => return ([first], rest)
    | ',' :: rest =>
      let (more, rest) ← items fuel (skipSpace rest)
      return (first :: more, rest)
    | rest => throw ⟨.expectedComma, rest⟩

/-- The entries of a mapping up to its closing brace, added to those already read. -/
def entries : Nat → Entries → List Char → Reading (Entries × List Char)
  | 0, _, cs => .error ⟨.expectedName, cs⟩
  | fuel + 1, before, cs =>
    match cs with
    | '"' :: rest => do
      let (name, rest) ← string rest
      match skipSpace rest with
      | ':' :: rest =>
        let (v, rest) ← value fuel (skipSpace rest)
        let now := before.put (.ofCodePoints name) v
        match skipSpace rest with
        | '\x7d' :: rest => return (now, rest)
        | ',' :: rest => entries fuel now (skipSpace rest)
        | rest => throw ⟨.expectedComma, rest⟩
      | rest => throw ⟨.expectedColon, rest⟩
    | cs => .error ⟨.expectedName, cs⟩

end

/-- The one value that a text holds. -/
def document (cs : List Char) : Reading Value :=
  match cs with
  | '\ufeff' :: _ => .error ⟨.byteOrderMark, cs⟩
  | _ => do
    let (v, rest) ← value (2 * cs.length + 2) (skipSpace cs)
    match skipSpace rest with
    | [] => return v
    | extra => throw ⟨.extraData, extra⟩

/-- A fault and where it lies: characters before it, its line and its column, from one. -/
structure Error where
  fault : Fault
  offset : Nat
  line : Nat
  column : Nat
  deriving DecidableEq

/-- Where a failure lies in the text. -/
def Failure.locate (failure : Failure) (text : List Char) : Error :=
  let before := text.take (text.length - failure.rest.length)
  { fault := failure.fault
    offset := before.length
    line := before.count '\n' + 1
    column := (before.reverse.takeWhile (· ≠ '\n')).length + 1 }

/-- The value that a JSON text holds. -/
def read (text : String) : Except Error Value :=
  (document text.toList).mapError fun failure => failure.locate text.toList

/-- The words that name a fault. -/
def Fault.message : Fault → String
  | expectedValue => "Expecting value"
  | expectedName => "Expecting property name enclosed in double quotes"
  | expectedColon => "Expecting ':' delimiter"
  | expectedComma => "Expecting ',' delimiter"
  | extraData => "Extra data"
  | unterminatedString => "Unterminated string starting at"
  | controlCharacter => "Invalid control character at"
  | badEscape => "Invalid \\escape"
  | badCodeEscape => "Invalid \\uXXXX escape"
  | byteOrderMark => "Unexpected UTF-8 BOM (decode using utf-8-sig)"
  | tooManyDigits count => Digits.unreadableMessage count

/-- The text that reports an error in a text. -/
def Error.message (error : Error) : String :=
  match error.fault with
  | .tooManyDigits _ => error.fault.message
  | fault => s!"{fault.message}: line {error.line} column {error.column} (char {error.offset})"

end SchemaMigration.Json
