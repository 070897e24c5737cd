/-!
# Line ends of text files
-/

namespace SchemaMigration.Text

/-- The text with each `CR LF` and each lone `CR` read as one line feed. -/
def unifyNewlines : List Char → List Char
  | [] => []
  | '\r' :: '\n' :: rest => '\n' :: unifyNewlines rest
  | '\r' :: rest => '\n' :: unifyNewlines rest
  | c :: rest => c :: unifyNewlines rest

end SchemaMigration.Text
