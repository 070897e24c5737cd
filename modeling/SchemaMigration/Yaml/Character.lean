/-!
# Classes of characters in YAML text
-/

namespace SchemaMigration.Yaml

/-- Does the character end a line? Besides line feed and carriage return, three characters of
Unicode do. -/
def isBreak (c : Char) : Bool :=
  c = '\n' || c = '\r' || c = '\u0085' || c = '\u2028' || c = '\u2029'

/-- Is the character a space or a tab? -/
def isSpaceOrTab (c : Char) : Bool :=
  c = ' ' || c = '\t'

/-- Does the character separate: a space, a tab or a line break? -/
def isSeparator (c : Char) : Bool :=
  isSpaceOrTab c || isBreak c

/-- May the character occur in a YAML text at all? -/
def isAllowed (c : Char) : Bool :=
  let code := c.toNat
  c = '\t' || c = '\n' || c = '\r' || (0x20 ≤ code && code ≤ 0x7e) || code = 0x85 ||
    (0xa0 ≤ code && code ≤ 0xfffd) || 0x10000 ≤ code

/-- Does the text start with a character of the class, or end here? -/
def endsOr (p : Char → Bool) : List Char → Bool
  | [] => true
  | c :: _ => p c

/-- May the character stand in a directive's name, an anchor or a tag handle? -/
def isWordChar (c : Char) : Bool :=
  c.isAlphanum || c = '-' || c = '_'

end SchemaMigration.Yaml
