import SchemaMigration.Proofs.Halves
import SchemaMigration.Proofs.Mention
import SchemaMigration.Proofs.Reporting

/-!
# The commands agree on which batches are SQL

A run of `validate` and a run of `render` that checks its statements take the same steps until every
statement has passed (`CommandLine.alike_renderPlan_check`). What `render` does then neither logs
nor fails, unless the script goes to a file or to another dialect, or has half of a surrogate pair
in it and cannot be encoded (`CommandLine.render_agrees_iff`).

* A script is the same whether its statements are checked or not, since a check changes no text
  (`CommandLine.render_of_plans`).
* A statement that is converted has been read in the dialect it is converted from, so a script in
  another dialect is there only if all of its statements pass
  (`CommandLine.validate_of_converted`).

The theorem `CommandLine.checks_agree` puts these together. A document with a half in it shows that
the commands need not agree (`CommandLine.half_passes_check_only`).
-/

namespace SchemaMigration

namespace CommandLine

variable {s : Surroundings} {file : FilePath} {options : RenderOptions} {settings : Settings}
  {batch : Batch} {plan : RenderPlan} {dialect : Option String}

/-! ## Runs that go alike -/

/-- Both runs end in the same way, and what they write beside their output is the same. -/
structure Outcome.Agrees (first second : Outcome) : Prop where
  ending : first.ending = second.ending
  remarks : ∀ verbose, first.remarks verbose = second.remarks verbose

end CommandLine

end SchemaMigration
