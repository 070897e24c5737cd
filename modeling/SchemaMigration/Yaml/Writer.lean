import SchemaMigration.Outline
import SchemaMigration.Value.Display
import SchemaMigration.Yaml.Plain

/-!
# Writing YAML text in block style

A text is written plain where a reader would take it for the same text again, otherwise in single
quotes, and in double quotes where it holds characters or combinations of blanks that need escapes.
Long texts are folded at single spaces once a line has passed column 80.
-/

namespace SchemaMigration.Yaml

/-- The column behind which a text is folded. -/
def bestWidth : Nat := 80

/-- Does the character end a line, as the writer sees it? A carriage return needs an escape. -/
def isWrittenBreak (c : Char) : Bool :=
  c = '\n' || c = '\u0085' || c = '\u2028' || c = '\u2029'

/-- Can the character be written as it is, outside double quotes? -/
def isDirect (c : Char) : Bool :=
  let code := c.toNat
  c = '\n' || (0x20 ≤ code && code ≤ 0x7e) || code = 0x85 ||
    (0xa0 ≤ code && code ≤ 0xfffd && code ≠ 0xfeff) || (0x10000 ≤ code && code < 0x10ffff)

/-- What counts as a blank beside an indicator. -/
def isIndicatorBlank (c : Char) : Bool :=
  c = '\x00' || isSeparator c

/-! ### The choice of a style -/

/-- Would the first character be taken for an indicator? -/
def startsLikeIndicator : List Char → Bool
  | [] => false
  | c :: rest =>
    ['#', ',', '[', ']', '\x7b', '\x7d', '&', '*', '!', '|', '>', '\'', '"', '%', '@',
        '\x60'].contains c ||
      ((c = '?' || c = ':' || c = '-') && endsOr isIndicatorBlank rest)

/-- Does a later character look like an indicator: a colon in front of a blank, or a number sign
behind one? -/
def holdsIndicator : List Char → Bool
  | c :: d :: rest =>
    (d = ':' && endsOr isIndicatorBlank rest) || (d = '#' && isIndicatorBlank c) ||
      holdsIndicator (d :: rest)
  | _ => false

/-- Does the text start like the line that starts or ends a document? -/
def startsLikeDocumentMark : List Char → Bool
  | '-' :: '-' :: '-' :: _ => true
  | '.' :: '.' :: '.' :: _ => true
  | _ => false

/-- Is there a character of the first class right in front of one of the second? -/
def holdsSequence (p q : Char → Bool) : List Char → Bool
  | c :: d :: rest => (p c && q d) || holdsSequence p q (d :: rest)
  | _ => false

/-- A space. -/
def isSpace (c : Char) : Bool := c = ' '

/-- Can the text be written without quotes? -/
def allowsPlain (cs : List Char) : Bool :=
  cs.all isDirect && !cs.any isWrittenBreak && cs.head? ≠ some ' ' && cs.getLast? ≠ some ' ' &&
    !startsLikeIndicator cs && !holdsIndicator cs && !startsLikeDocumentMark cs &&
    plainTag (Text.ofChars cs) = .text

/-- Can the text be written in single quotes? -/
def allowsSingleQuotes (cs : List Char) : Bool :=
  cs.all isDirect && !holdsSequence isWrittenBreak isSpace cs &&
    !holdsSequence isSpace isWrittenBreak cs

/-! ### Folding -/

/-- A line end and an indentation. -/
def newline (indent : Nat) : List Char :=
  '\n' :: List.replicate indent ' '

/-- The three kinds of runs that a text is made of. -/
inductive RunKind where
  | word
  | spaces
  | breaks
  deriving DecidableEq

/-- The kind of run that a character belongs to. -/
def runKind (c : Char) : RunKind :=
  if c = ' ' then .spaces else if isWrittenBreak c then .breaks else .word

/-- The runs of a text, in order. -/
def runs (cs : List Char) : List (List Char) :=
  cs.splitBy fun a b => runKind a = runKind b

/-- The line breaks of a run; a line feed at its start is written twice, because one by itself would
be read as a space. -/
def writeBreaks : List Char → List Char
  | '\n' :: rest => '\n' :: '\n' :: rest
  | other => other

/-- The runs of a text in single quotes, from the given column. -/
def foldQuoted (indent : Nat) : (column : Nat) → (atStart : Bool) → List (List Char) → List Char
  | _, _, [] => []
  | column, atStart, run :: rest =>
    match run.head?.map runKind with
    | none => foldQuoted indent column false rest
    | some .word =>
      let word := run.flatMap fun c => if c = '\'' then ['\'', '\''] else [c]
      word ++ foldQuoted indent (column + word.length) false rest
    | some .spaces =>
      if run.length = 1 ∧ bestWidth < column ∧ !atStart ∧ !rest.isEmpty then
        newline indent ++ foldQuoted indent indent false rest
      else run ++ foldQuoted indent (column + run.length) false rest
    | some .breaks =>
      writeBreaks run ++ List.replicate indent ' ' ++ foldQuoted indent indent false rest

/-- The runs of a text without quotes, from the given column. -/
def foldPlain (indent : Nat) : (column : Nat) → List (List Char) → List Char
  | _, [] => []
  | column, run :: rest =>
    if run = [' '] ∧ bestWidth < column then newline indent ++ foldPlain indent indent rest
    else run ++ foldPlain indent (column + run.length) rest

/-! ### Double quotes -/

/-- The letter that stands for a character behind a backslash. -/
def escapeLetter? : Char → Option Char
  | '\x00' => some '0'
  | '\x07' => some 'a'
  | '\x08' => some 'b'
  | '\t' => some 't'
  | '\n' => some 'n'
  | '\x0b' => some 'v'
  | '\x0c' => some 'f'
  | '\r' => some 'r'
  | '\x1b' => some 'e'
  | '"' => some '"'
  | '\\' => some '\\'
  | '\u0085' => some 'N'
  | '\u00a0' => some '_'
  | '\u2028' => some 'L'
  | '\u2029' => some 'P'
  | _ => none

/-- The escape of a character in double quotes, if it needs one. -/
def escape? (c : Char) : Option (List Char) :=
  let code := c.toNat
  if c ≠ '"' ∧ c ≠ '\\' ∧ (0x20 ≤ code ∧ code ≤ 0x7e ∨
      0xa0 ≤ code ∧ code ≤ 0xfffd ∧ code ≠ 0xfeff ∧ code ≠ 0x2028 ∧ code ≠ 0x2029) then none
  else some <| '\\' ::
    match escapeLetter? c with
    | some letter => [letter]
    | none =>
      if code ≤ 0xff then 'x' :: (Text.hex 2 code).map Char.toUpper
      else if code ≤ 0xffff then 'u' :: (Text.hex 4 code).map Char.toUpper
      else 'U' :: (Text.hex 8 code).map Char.toUpper

/-- The inside of double quotes from the given column. A line is broken in front of a space or
beside an escape, by a backslash; a space at the start of the next line needs one, too. -/
def foldEscaped (indent : Nat) :
    (column : Nat) → (atStart afterEscape : Bool) → List Char → List Char
  | _, _, _, [] => []
  | column, atStart, afterEscape, c :: rest =>
    let inner := !atStart && !rest.isEmpty
    match escape? c with
    | some escape =>
      let column := column + escape.length
      if inner ∧ bestWidth < column - 1 then
        if rest.head? = some ' ' then
          escape ++ '\\' :: newline indent ++
            '\\' :: foldEscaped indent (indent + 1) false true rest
        else escape ++ '\\' :: newline indent ++ foldEscaped indent indent false true rest
      else escape ++ foldEscaped indent column false true rest
    | none =>
      if inner ∧ (c = ' ' ∨ afterEscape) ∧ bestWidth < column then
        if c = ' ' then
          '\\' :: newline indent ++ '\\' :: c :: foldEscaped indent (indent + 2) false false rest
        else '\\' :: newline indent ++ c :: foldEscaped indent (indent + 1) false false rest
      else c :: foldEscaped indent (column + 1) false false rest

/-! ### Documents -/

/-- A text that is written from the given column; its further lines have the given indentation. -/
def writeText (indent column : Nat) (text : String) : List Char :=
  let cs := text.toList
  if allowsPlain cs then foldPlain indent column (runs cs)
  else if allowsSingleQuotes cs then
    '\'' :: foldQuoted indent (column + 1) true (runs cs) ++ ['\'']
  else '"' :: foldEscaped indent (column + 1) true false cs ++ ['"']

/-- The name of a field. -/
def writeName (text : String) : List Char :=
  let cs := text.toList
  if allowsPlain cs then cs else '"' :: cs.flatMap (fun c => (escape? c).getD [c]) ++ ['"']

mutual

/-- A document behind the name of a field that stands at the given indentation and ends at the given
column. -/
def writeField (indent column : Nat) : Outline → List Char
  | .text s => ' ' :: writeText (indent + 2) (column + 1) s
  | .number n => ' ' :: Nat.toDigits 10 n
  | .list [] => [' ', '[', ']']
  | .list (first :: rest) => newline indent ++ writeItems indent (first :: rest)
  | .record [] => [' ', '\x7b', '\x7d']
  | .record (first :: rest) => newline (indent + 2) ++ writeFields (indent + 2) (first :: rest)

/-- A document behind the dash of an item that stands at the given indentation. -/
def writeItem (indent : Nat) : Outline → List Char
  | .text s => ' ' :: writeText (indent + 2) (indent + 2) s
  | .number n => ' ' :: Nat.toDigits 10 n
  | .list [] => [' ', '[', ']']
  | .list (first :: rest) => ' ' :: writeItems (indent + 2) (first :: rest)
  | .record [] => [' ', '\x7b', '\x7d']
  | .record (first :: rest) => ' ' :: writeFields (indent + 2) (first :: rest)

/-- The items of a list, the first one at the current place. -/
def writeItems (indent : Nat) : List Outline → List Char
  | [] => []
  | [item] => '-' :: writeItem indent item
  | item :: rest => '-' :: writeItem indent item ++ newline indent ++ writeItems indent rest

/-- The fields of a record, the first one at the current place. -/
def writeFields (indent : Nat) : List (String × Outline) → List Char
  | [] => []
  | [(name, value)] =>
    let name := writeName name
    name ++ ':' :: writeField indent (indent + name.length + 1) value
  | (name, value) :: rest =>
    let name := writeName name
    name ++ ':' :: writeField indent (indent + name.length + 1) value ++ newline indent ++
      writeFields indent rest

end

/-- The YAML text of a document. -/
def render : Outline → String
  | .record (first :: rest) => String.ofList (writeFields 0 (first :: rest) ++ ['\n'])
  | .list (first :: rest) => String.ofList (writeItems 0 (first :: rest) ++ ['\n'])
  | .record [] => "\x7b\x7d\n"
  | .list [] => "[]\n"
  | .text s => String.ofList (writeText 2 0 s ++ ['\n'])
  | .number n => String.ofList (Nat.toDigits 10 n ++ ['\n'])

end SchemaMigration.Yaml
