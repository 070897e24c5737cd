/-!
# Escape sequences

Escape sequences that colour text are taken out of what is written out, since it need not go to a
terminal. What is left is what is encoded.
-/

namespace SchemaMigration.CommandLine

/-- Can the character stand between the start and the end of an escape sequence? -/
def isSequenceBody (c : Char) : Bool := c = ';' || c = '?' || c.isDigit

/-- The text without escape sequences: an escape character, a bracket, digits with semicolons and
question marks, and a letter. -/
def dropSequences : Nat → List Char → List Char
  | 0, cs => cs
  | _ + 1, [] => []
  | fuel + 1, '\x1b' :: '[' :: rest =>
    match rest.dropWhile isSequenceBody with
    | c :: behind =>
      if c.isAlpha then dropSequences fuel behind else '\x1b' :: dropSequences fuel ('[' :: rest)
    | [] => '\x1b' :: dropSequences fuel ('[' :: rest)
  | fuel + 1, c :: rest => c :: dropSequences fuel rest

/-- The text as it is shown. -/
def plain (text : String) : String :=
  String.ofList (dropSequences text.length text.toList)

end SchemaMigration.CommandLine
