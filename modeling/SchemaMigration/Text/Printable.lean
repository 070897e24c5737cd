import SchemaMigration.Text.Printable.Table

/-!
# Which characters can be printed as they are
-/

namespace SchemaMigration.Text

/-- Can the character be printed as it is, without an escape? -/
def isPrintable (c : Char) : Bool :=
  inRanges printableRanges c

end SchemaMigration.Text
