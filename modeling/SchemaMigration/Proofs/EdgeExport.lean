import SchemaMigration.Batch.EdgeDocument
import SchemaMigration.OutputFormat
import SchemaMigration.Proofs.Extraction
import SchemaMigration.Proofs.Refusal

/-!
# From a document to its edge document

Exporting reads a batch from a document, extracts its edges and writes them in a format. Each of the
three can fail in its own way, and there are ways that nobody reports: an integer that cannot be
written, or a format that does not exist. For a document whose integers can be written, and a format
that exists, only three endings are left (`exportEdges_ends`): a fault in the document, reported
with its place; a statement with a name that does not resolve; or the edge document of the batch.
-/

namespace SchemaMigration

open Document

/-- Why a document gives no edge document. -/
inductive ExportFault where
  /-- The document is refused. -/
  | unread (error : LoadError)
  /-- A statement names something that does not resolve. -/
  | unresolved (error : DependencyError)
  /-- There is no format of this name. -/
  | unknownFormat (format : String)

/-- The edges of the document with the given name, written in the format of the other name. -/
def exportEdges (name : String) (value : Value) (format : String) : Except ExportFault String := do
  let batch ← ((Batch.ofValue value).named name).mapError .unread
  let edges ← batch.edges.result.mapError .unresolved
  match OutputFormat.ofName? format with
  | some format => return format.render (edgeDocument edges)
  | none => throw (.unknownFormat format)

/-- The document is read as the batch: it has an item for each statement, in the same order, and
every statement is what its own item writes. -/
structure Batch.ReadFrom (value : Value) (batch : Batch) : Prop where
  ofValue_eq : Batch.ofValue value = .ok batch
  items : ∃ items, batchItems value = .ok items ∧ ReadsItems Statement.ofValue items batch

/-- The endings that are left when the integers of a document can be written and the format exists.
-/
inductive ExportEnds (name : String) (value : Value) (format : OutputFormat) :
    Except ExportFault String → Prop where
  /-- A part of the document is refused, for a reason that is reported with the place of the part.
  -/
  | refused {fault : Fault} (hread : Batch.ofValue value = .error fault)
      (hplaced : fault.reason.isPlaced = true) :
      ExportEnds name value format (.error (.unread ⟨name, fault⟩))
  /-- A statement of the batch fails: the error has its place, its SQL text and the name that does
  not resolve. -/
  | unresolved {batch : Batch} {i : Nat} {s : Statement} {cause : Identifier.Unresolvable}
      (hbatch : batch.ReadFrom value) (hs : batch[i]? = some s) (hfails : s.FailsWith cause) :
      ExportEnds name value format (.error (.unresolved ⟨i, s.render, cause⟩))
  /-- Every statement of the batch has an entry in the document that is written. -/
  | written {batch : Batch} {entries : List StatementEdges} (hbatch : batch.ReadFrom value)
      (hentries : batch.DescribedBy entries) :
      ExportEnds name value format (.ok (format.render (edgeDocument entries)))

theorem exportEdges_of_error (name : String) {value : Value} {fault : Fault} (format : String)
    (h : Batch.ofValue value = .error fault) :
    exportEdges name value format = .error (.unread ⟨name, fault⟩) := by
  rw [exportEdges, h]
  rfl

theorem exportEdges_of_edges_error (name : String) {value : Value} {batch : Batch}
    {error : DependencyError} (format : String) (h : Batch.ofValue value = .ok batch)
    (herror : batch.edges.result = .error error) :
    exportEdges name value format = .error (.unresolved error) := by
  rw [exportEdges, h]
  show (batch.edges.result.mapError ExportFault.unresolved >>= _) = _
  rw [herror]
  rfl

theorem exportEdges_of_edges_ok (name : String) {value : Value} {batch : Batch}
    {entries : List StatementEdges} (format : OutputFormat) (h : Batch.ofValue value = .ok batch)
    (hentries : batch.edges.result = .ok entries) :
    exportEdges name value format.name = .ok (format.render (edgeDocument entries)) := by
  rw [exportEdges, h]
  show (batch.edges.result.mapError ExportFault.unresolved >>= _) = _
  rw [hentries, OutputFormat.ofName?_name]
  rfl

/-- **Every export ends in one of three ways.** When every integer in the document can be written,
whatever else the document holds, the export in a format that exists ends with a fault that is
reported with its place, with the error of a statement that fails, or with the edge document. -/
theorem exportEdges_ends (name : String) {value : Value} (h : value.Writable)
    (format : OutputFormat) :
    ExportEnds name value format (exportEdges name value format.name) := by
  -- The document is read or it is not; the batch has edges or it does not.
  cases hread : Batch.ofValue value with
  | error fault =>
    rw [exportEdges_of_error name format.name hread]
    exact .refused hread (Batch.placed_ofValue h fault hread)
  | ok batch =>
    have hbatch : batch.ReadFrom value := ⟨hread, Batch.ofValue_eq_ok_iff.mp hread⟩
    rcases batch.edges_result_cases with
      ⟨entries, hentries, hresult⟩ | ⟨i, s, cause, hs, hfails, hresult⟩
    · rw [exportEdges_of_edges_ok name format hread hresult]
      exact .written hbatch hentries
    · rw [exportEdges_of_edges_error name format.name hread hresult]
      exact .unresolved hbatch hs hfails

/-- A document with one statement of the given kind about the table of the given name. -/
def tableDocument (kind : String) (tableName : Value) : Value :=
  .list [.mapping [(.text "kind", .text kind), (.text "target", .text "table"),
    (.text "name", tableName)]]

/-- Each of the three endings is met: a number can be written but is no identifier, a name without a
dot does not resolve as a table, and a name with one does. -/
theorem exportEdges_ends_tables :
    let number := tableDocument "create" (.int 5)
    let undotted := tableDocument "create" (.text "orders")
    let dotted := tableDocument "create" (.text "app.orders")
    let refused : ExportFault :=
      .unread ⟨"orders.yaml", ⟨[.statement 0, .key "name"], .notAnIdentifier "int"⟩⟩
    let unresolved : ExportFault :=
      .unresolved ⟨0, "create table orders", ⟨"orders", .table⟩⟩
    (number.Writable ∧ exportEdges "orders.yaml" number "yaml" = .error refused ∧
      ExportEnds "orders.yaml" number .yaml (.error refused)) ∧
    (undotted.Writable ∧ exportEdges "orders.yaml" undotted "yaml" = .error unresolved ∧
      ExportEnds "orders.yaml" undotted .yaml (.error unresolved)) ∧
    dotted.Writable ∧ ∃ text, exportEdges "orders.yaml" dotted "json" = .ok text ∧
      ExportEnds "orders.yaml" dotted .json (.ok text) := by
  -- One document for each way to end.
  intro number undotted dotted refused unresolved
  have hnumber : number.Writable := by decide +kernel
  have hundotted : undotted.Writable := by decide
  have hdotted : dotted.Writable := by decide
  exact ⟨⟨hnumber, rfl, exportEdges_ends "orders.yaml" hnumber .yaml⟩,
    ⟨hundotted, rfl, exportEdges_ends "orders.yaml" hundotted .yaml⟩,
    hdotted, _, rfl, exportEdges_ends "orders.yaml" hdotted .json⟩

end SchemaMigration
