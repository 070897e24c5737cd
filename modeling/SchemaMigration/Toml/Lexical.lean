import SchemaMigration.Json.Reader

/-!
# Characters, comments, strings and keys of TOML text

Line ends are line feeds here; a carriage return by itself is a control character like others, and
those are allowed nowhere but in escapes.
-/

namespace SchemaMigration.Toml

/-- Why a text holds no value. -/
inductive Fault where
  /-- The text is not TOML. -/
  | malformed
  /-- An integer has more digits than are read. -/
  | tooManyDigits (count : Nat)
  deriving DecidableEq

/-- Results of reading TOML. -/
abbrev Reading := Except Fault

/-- Is it a space or a tab? -/
def isBlank (c : Char) : Bool := c = ' ' || c = '\t'

/-- Is it a space, a tab or a line feed? -/
def isGap (c : Char) : Bool := isBlank c || c = '\n'

/-- Is it a control character that may not stand in a line? -/
def isForbidden (c : Char) : Bool := (c.toNat < 0x20 && c ≠ '\t') || c.toNat = 0x7f

/-- Is it a control character that may not stand in a string of several lines? -/
def isForbiddenInLines (c : Char) : Bool := isForbidden c && c ≠ '\n'

/-- What remains after spaces and tabs. -/
def skipBlanks (cs : List Char) : List Char := cs.dropWhile isBlank

/-- What remains after a comment, if one starts here. -/
def skipComment : List Char → Reading (List Char)
  | '#' :: rest =>
    if (rest.takeWhile (· ≠ '\n')).any isForbidden then .error .malformed
    else .ok (rest.dropWhile (· ≠ '\n'))
  | cs => .ok cs

/-- What remains after white space, comments and ends of lines. -/
def skipGaps : Nat → List Char → Reading (List Char)
  | 0, cs => .ok cs
  | fuel + 1, cs => do
    match ← skipComment (cs.dropWhile isGap) with
    | '\n' :: rest => skipGaps fuel rest
    | rest => return rest

/-! ### Strings -/

/-- Puts a character in front of the string that is read. -/
def consChar (c : Char) :
    Reading (List Char × List Char) → Reading (List Char × List Char)
  | .ok (cs, rest) => .ok (c :: cs, rest)
  | .error fault => .error fault

/-- The characters up to the closing apostrophe; nothing is escaped. -/
def literalBody : List Char → Reading (List Char × List Char)
  | [] => .error .malformed
  | '\'' :: rest => .ok ([], rest)
  | c :: rest => if isForbidden c then .error .malformed else consChar c (literalBody rest)

/-- The characters up to three apostrophes. -/
def literalLines : List Char → Reading (List Char × List Char)
  | [] => .error .malformed
  | '\'' :: '\'' :: '\'' :: rest => .ok ([], rest)
  | c :: rest =>
    if isForbiddenInLines c then .error .malformed else consChar c (literalLines rest)

/-- The character that a letter stands for behind a backslash. -/
def shortEscape? : Char → Option Char
  | 'b' => some '\x08'
  | 't' => some '\t'
  | 'n' => some '\n'
  | 'f' => some '\x0c'
  | 'r' => some '\r'
  | '"' => some '"'
  | '\\' => some '\\'
  | _ => none

/-- The character whose code hexadecimal digits write. -/
def codeChar? (digits : List Char) : Option Char := do
  let code ← digits.foldlM (fun n c => do return n * 16 + (← Digits.hex? c)) 0
  if h : code.isValidChar then return Char.ofNatAux code h else none

/-- The character of an escape, given what stands behind the backslash. -/
def escape : List Char → Reading (Char × List Char)
  | [] => .error .malformed
  | letter :: rest =>
    let coded (width : Nat) : Reading (Char × List Char) :=
      match codeChar? (rest.take width) with
      | some c => if rest.length < width then .error .malformed else .ok (c, rest.drop width)
      | none => .error .malformed
    if letter = 'u' then coded 4
    else if letter = 'U' then coded 8
    else match shortEscape? letter with
      | some c => .ok (c, rest)
      | none => .error .malformed

/-- The characters of a string in one line up to the closing quote. -/
def quotedBody : Nat → List Char → Reading (List Char × List Char)
  | 0, _ => .error .malformed
  | fuel + 1, cs =>
    match cs with
    | [] => .error .malformed
    | '"' :: rest => .ok ([], rest)
    | '\\' :: rest => do
      let (c, rest) ← escape rest
      consChar c (quotedBody fuel rest)
    | c :: rest => if isForbidden c then .error .malformed else consChar c (quotedBody fuel rest)

/-- What remains after a backslash at the end of a line, given what stands behind it: the gaps up to
the next character are no part of the string. -/
def lineContinuation? (cs : List Char) : Option (Reading (List Char)) :=
  match cs with
  | [] => none
  | c :: _ =>
    if !isGap c then none
    else match skipBlanks cs with
      | [] => some (.ok [])
      | '\n' :: rest => some (.ok (rest.dropWhile isGap))
      | _ => some (.error .malformed)

/-- The characters of a string of several lines up to three quotes. -/
def quotedLines : Nat → List Char → Reading (List Char × List Char)
  | 0, _ => .error .malformed
  | fuel + 1, cs =>
    match cs with
    | [] => .error .malformed
    | '"' :: '"' :: '"' :: rest => .ok ([], rest)
    | '\\' :: rest =>
      match lineContinuation? rest with
      | some continued => do quotedLines fuel (← continued)
      | none => do
        let (c, rest) ← escape rest
        consChar c (quotedLines fuel rest)
    | c :: rest =>
      if isForbiddenInLines c then .error .malformed else consChar c (quotedLines fuel rest)

/-- Up to two more delimiters behind the three that end a string are its last characters. -/
def trailingDelimiters (delimiter : Char) (body rest : List Char) : List Char × List Char :=
  let more := (rest.take 2).takeWhile (· = delimiter)
  (body ++ more, rest.drop more.length)

/-- A line feed right at the start of a string of several lines is not part of it. -/
def dropFirstBreak : List Char → List Char
  | '\n' :: rest => rest
  | cs => cs

/-- The string at the front, if there is one. -/
def string? (cs : List Char) : Option (Reading (List Char × List Char)) :=
  match cs with
  | '"' :: '"' :: '"' :: rest => some do
    let (body, rest) ← quotedLines cs.length (dropFirstBreak rest)
    return trailingDelimiters '"' body rest
  | '"' :: rest => some (quotedBody cs.length rest)
  | '\'' :: '\'' :: '\'' :: rest => some do
    let (body, rest) ← literalLines (dropFirstBreak rest)
    return trailingDelimiters '\'' body rest
  | '\'' :: rest => some (literalBody rest)
  | _ => none

/-! ### Keys -/

/-- May the character stand in a key without quotes? -/
def isKeyChar (c : Char) : Bool := c.isAlphanum || c = '-' || c = '_'

/-- One part of a key. -/
def keyPart (cs : List Char) : Reading (String × List Char) :=
  match cs with
  | '"' :: rest => do
    let (name, rest) ← quotedBody cs.length rest
    return (String.ofList name, rest)
  | '\'' :: rest => do
    let (name, rest) ← literalBody rest
    return (String.ofList name, rest)
  | _ =>
    let name := cs.takeWhile isKeyChar
    if name.isEmpty then .error .malformed
    else .ok (String.ofList name, cs.dropWhile isKeyChar)

/-- A key: its parts, separated by points. -/
def key : Nat → List Char → Reading (List String × List Char)
  | 0, _ => .error .malformed
  | fuel + 1, cs => do
    let (first, rest) ← keyPart cs
    match skipBlanks rest with
    | '.' :: rest =>
      let (others, rest) ← key fuel (skipBlanks rest)
      return (first :: others, rest)
    | rest => return ([first], rest)

end SchemaMigration.Toml
